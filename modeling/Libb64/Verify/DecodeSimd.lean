import Libb64.Verify.SimdBlocks
import Libb64.CdecodeSimdSse
import Libb64.CdecodeSimdNeon

/-!
# The decode kernels

The nibble tables and the roll table agree with the scalar table in every byte, so a register is
accepted exactly if all its characters are in the alphabet, and then holds their values. Each four
values go through the packing on their own, by multiplications on x86 and by shifts on NEON, and
come out as three bytes of a dword; the last shuffle takes these out in order.
-/

namespace Libb64

open BitString Rfc4648 Lanes

variable {n : Nat}

/-! ## One character -/

/-- What the two lookups have in common. -/
def nibbleError (c : Byte) : Byte :=
  decodeLutLo.getD (c &&& 0x0f).toNat 0 &&& decodeLutHi.getD (c >>> 4).toNat 0

/-- The place in the roll table: the high half, or the place before it for `'/'`. -/
def rollIndex (c : Byte) : Byte := (if c = 0x2f then (0xff : Byte) else 0) + c >>> 4

/-- A character with its offset added. -/
def rolled (c : Byte) : Byte := c + decodeLutRoll.getD (rollIndex c).toNat 0

/-- **The nibble tables accept the alphabet**, and the roll table gives the values. -/
theorem nibbles_eq (c : Byte) : (nibbleError c == 0) = inAlphabet c ∧
    ∀ v, value c = some v → rolled c = v.setWidth 8 := by
  have hall : ∀ c : Byte, ((nibbleError c == 0) == inAlphabet c &&
      (value c).all fun v => rolled c == v.setWidth 8) = true :=
    forall_of_all (by decide +kernel)
  have hc := hall c
  rw [Bool.and_eq_true, beq_iff_eq] at hc
  refine ⟨hc.1, fun v hv => ?_⟩
  have hval := hc.2
  rw [hv] at hval
  exact eq_of_beq hval

theorem shiftRight_four_lt (c : Byte) : (c >>> 4).toNat < 16 := by
  have hlt := c.isLt
  rw [BitVec.toNat_ushiftRight, Nat.shiftRight_eq_div_pow]
  omega

theorem and_low_lt (c : Byte) : (c &&& 0x0f).toNat < 16 := by
  have hle : (c &&& 0x0f).toNat ≤ 15 := by
    rw [BitVec.toNat_and]
    exact Nat.and_le_right
  omega

theorem rollIndex_lt (c : Byte) : (rollIndex c).toNat < 16 := by
  unfold rollIndex
  split
  · next h =>
    rw [h]
    decide
  · have hzero : (0 : Byte) + c >>> 4 = c >>> 4 := BitVec.zero_add _
    rw [hzero]
    exact shiftRight_four_lt c

/-! ## Four values -/

section Quad

variable {code0 code1 code2 code3 : Byte} {v0 v1 v2 v3 : Sextet}

/-- The bytes of a clean quad, in the dword that the packing leaves them in. -/
theorem decode_quad (h0 : value code0 = some v0) (h1 : value code1 = some v1)
    (h2 : value code2 = some v2) (h3 : value code3 = some v3) :
    decode [code0, code1, code2, code3] =
      [2, 1, 0].map (lane 8 ((quadBits v0 v1 v2 v3).setWidth 32 : BitVec 32)) := by
  have hsextets : sextets [code0, code1, code2, code3] = [v0, v1, v2, v3] := by
    simp [sextets, h0, h1, h2, h3]
  rw [decode, hsextets, groups_quad]
  generalize quadBits v0 v1 v2 v3 = x
  have hbyte : ∀ k, ((x.setWidth 32 : BitVec 32) >>> (8 * k)).setWidth 8 =
      lane 8 (x.setWidth 32 : BitVec 32) k := by
    intro k
    apply BitVec.eq_of_getLsbD_eq
    intro b hb
    rw [getLsbD_lane hb, BitVec.getLsbD_setWidth, BitVec.getLsbD_ushiftRight]
    simp [hb]
  have h16 : ((x.setWidth 32 : BitVec 32) >>> 16).setWidth 8 =
      lane 8 (x.setWidth 32 : BitVec 32) 2 := hbyte 2
  have h8 : ((x.setWidth 32 : BitVec 32) >>> 8).setWidth 8 =
      lane 8 (x.setWidth 32 : BitVec 32) 1 := hbyte 1
  have h0 := hbyte 0
  rw [Nat.mul_zero, BitVec.ushiftRight_zero] at h0
  rw [h16, h8, h0]
  rfl

end Quad

theorem toNat_append_eq {k l : Nat} (x : BitVec k) (y : BitVec l) :
    (x ++ y).toNat = x.toNat * 2 ^ l + y.toNat := by
  rw [BitVec.toNat_append, ← Nat.shiftLeft_add_eq_or_of_lt y.isLt, Nat.shiftLeft_eq]

theorem toNat_quadBits (v0 v1 v2 v3 : Sextet) : (quadBits v0 v1 v2 v3).toNat =
    (v0.toNat * 64 + v1.toNat) * 4096 + (v2.toNat * 64 + v3.toNat) := by
  simp only [quadBits, toNat_append_eq]
  omega

/-- A register before the last shuffle: dword `q` has the bits of the quad at `4 * q`. -/
def HoldsQuads (merged : BitVec n) (src : List Byte) (s : Nat) : Prop :=
  ∀ q, 32 * (q + 1) ≤ n → ∀ v0 v1 v2 v3 : Sextet,
    value (src.getD (s + (4 * q + 0)) 0) = some v0 →
    value (src.getD (s + (4 * q + 1)) 0) = some v1 →
    value (src.getD (s + (4 * q + 2)) 0) = some v2 →
    value (src.getD (s + (4 * q + 3)) 0) = some v3 →
    lane 32 merged q = (quadBits v0 v1 v2 v3).setWidth 32

/-- A property of all items of a block, index by index. -/
theorem forall_block {p : Byte → Prop} {src : List Byte} {s k : Nat} (h : s + k ≤ src.length) :
    (∀ c ∈ (src.drop s).take k, p c) ↔ ∀ i < k, p (src.getD (s + i) 0) := by
  rw [take_drop_eq_map src h]
  simp

/-- **The last shuffle** takes the bytes of a clean block out in order. -/
theorem toList_decoded {m : Nat} (out : BitVec n) {merged : BitVec n} {src : List Byte} {s : Nat}
    (hn : 32 * m ≤ n) (hlen : s + 4 * m ≤ src.length)
    (hclean : ∀ c ∈ (src.drop s).take (4 * m), inAlphabet c = true)
    (hmerged : HoldsQuads merged src s)
    (hout : ∀ q < m, ∀ k < 3, lane 8 out (3 * q + k) = lane 8 merged (4 * q + (2 - k))) :
    toList 8 out (3 * m) = decode ((src.drop s).take (4 * m)) := by
  rw [forall_block hlen] at hclean
  have hvalue : ∀ q < m, ∀ k < 4, ∃ v, value (src.getD (s + (4 * q + k)) 0) = some v := by
    intro q hq k hk
    exact Option.isSome_iff_exists.mp (hclean (4 * q + k) (by omega))
  rw [toList_mul, take_drop_eq_rows src hlen, decode_rows _ (by simp)]
  · apply List.flatMap_congr
    intro q hq
    rw [List.mem_range] at hq
    obtain ⟨v0, h0⟩ := hvalue q hq 0 (by omega)
    obtain ⟨v1, h1⟩ := hvalue q hq 1 (by omega)
    obtain ⟨v2, h2⟩ := hvalue q hq 2 (by omega)
    obtain ⟨v3, h3⟩ := hvalue q hq 3 (by omega)
    have hrow : (List.range 4).map (fun j => src.getD (s + (4 * q + j)) 0) =
        [src.getD (s + (4 * q + 0)) 0, src.getD (s + (4 * q + 1)) 0,
          src.getD (s + (4 * q + 2)) 0, src.getD (s + (4 * q + 3)) 0] := rfl
    have hdword := hmerged q (by omega) v0 v1 v2 v3 h0 h1 h2 h3
    have hbyte : ∀ j < 4, lane 8 merged (4 * q + j) =
        lane 8 ((quadBits v0 v1 v2 v3).setWidth 32 : BitVec 32) j := by
      intro j hj
      rw [← hdword]
      exact (lane_lane (w := 8) merged hj).symm
    rw [hrow, decode_quad h0 h1 h2 h3]
    simp only [List.range_succ, List.range_zero, List.nil_append, List.cons_append, List.map_cons,
      List.map_nil, hout q hq 0 (by omega), hout q hq 1 (by omega), hout q hq 2 (by omega)]
    rw [hbyte _ (by omega), hbyte _ (by omega), hbyte _ (by omega)]
  · intro q hq c hc
    simp only [List.mem_map, List.mem_range] at hc
    obtain ⟨k, hk, rfl⟩ := hc
    exact hclean (4 * q + k) (by omega)

/-! ## The x86 registers -/

section X86

open X86

variable {m i : Nat} {v : BitVec n}

theorem lane_shuffle_table {table idx : BitVec n} {entries : List Byte} (hn : n = 128 * m)
    (hi : 8 * (i + 1) ≤ n) (htable : LaneTable table entries)
    (hidx : (lane 8 idx i).toNat < 16) :
    lane 8 (shuffleEpi8 table idx) i = entries.getD (lane 8 idx i).toNat 0 := by
  have hmsb : (lane 8 idx i).msb = false := by
    rw [BitVec.msb_eq_false_iff_two_mul_lt]
    omega
  have hlow : (lane 8 idx i &&& 0x0f).toNat = (lane 8 idx i).toNat := by
    have hmask := Nat.and_two_pow_sub_one_eq_mod (lane 8 idx i).toNat 4
    rw [BitVec.toNat_and]
    refine hmask.trans (Nat.mod_eq_of_lt hidx)
  rw [lane_shuffleEpi8 hi, hmsb, hlow]
  exact htable (i / 16) _ hidx (by omega)

/-- The shift of whole dwords moves bits of a neighbour in; the mask drops them. -/
theorem lane_hiNib (hn : n = 128 * m) (hi : 8 * (i + 1) ≤ n) :
    lane 8 (hiNib v) i = lane 8 v i >>> 4 := by
  rw [hiNib, lane_and, lane_set1Epi8 hi]
  apply BitVec.eq_of_getLsbD_eq
  intro b hb
  rw [BitVec.getLsbD_and, BitVec.getLsbD_ushiftRight, getLsbD_lane hb, srliEpi32, map,
    getLsbD_ofLanes (by omega), BitVec.getLsbD_ushiftRight]
  by_cases h4 : b < 4
  · rw [getLsbD_lane (by omega), getLsbD_lane (by omega)]
    have hmask : (0x0f : Byte).getLsbD b = true := by
      match b, h4 with
      | 0, _ => rfl
      | 1, _ => rfl
      | 2, _ => rfl
      | 3, _ => rfl
    rw [hmask, Bool.and_true]
    congr 1
    omega
  · have hmask : (0x0f : Byte).getLsbD b = false := by
      match b, hb, h4 with
      | 4, _, _ => rfl
      | 5, _, _ => rfl
      | 6, _, _ => rfl
      | 7, _, _ => rfl
    have hout : (lane 8 v i).getLsbD (4 + b) = false := BitVec.getLsbD_of_ge _ _ (by omega)
    rw [hmask, Bool.and_false, hout]

/-- **The validity test** accepts a register of alphabet characters. -/
theorem decodeClean_iff {lutLo lutHi : BitVec n} (hn : n = 128 * m)
    (hlo : LaneTable lutLo decodeLutLo) (hhi : LaneTable lutHi decodeLutHi) :
    decodeClean lutLo lutHi v = true ↔ ∀ i < 16 * m, inAlphabet (lane 8 v i) = true := by
  have hbyte : ∀ i < 16 * m,
      lane 8 (shuffleEpi8 lutLo (v &&& set1Epi8 n 0x0f) &&& shuffleEpi8 lutHi (hiNib v)) i =
        nibbleError (lane 8 v i) := by
    intro i hi
    have hle : 8 * (i + 1) ≤ n := by omega
    have hlow : lane 8 (v &&& set1Epi8 n 0x0f) i = lane 8 v i &&& 0x0f := by
      rw [lane_and, lane_set1Epi8 hle]
    have hhigh := lane_hiNib (v := v) hn hle
    rw [lane_and, lane_shuffle_table hn hle hlo (by rw [hlow]; exact and_low_lt _),
      lane_shuffle_table hn hle hhi (by rw [hhigh]; exact shiftRight_four_lt _), hlow, hhigh]
    rfl
  rw [decodeClean, testz, beq_iff_eq, eq_zero_iff (w := 8) (k := 16 * m) (by omega)]
  apply forall_congr'
  intro i
  apply imp_congr_right
  intro hi
  rw [hbyte i hi, ← (nibbles_eq _).1, beq_iff_eq]

theorem lane_decodeVals {lutRoll : BitVec n} (hn : n = 128 * m) (hi : 8 * (i + 1) ≤ n)
    (hroll : LaneTable lutRoll decodeLutRoll) :
    lane 8 (decodeVals lutRoll v) i = rolled (lane 8 v i) := by
  have hindex : lane 8 (addEpi8 (cmpeqEpi8 v (set1Epi8 n 0x2f)) (hiNib v)) i =
      rollIndex (lane 8 v i) := by
    rw [addEpi8, lane_zip hi, cmpeqEpi8, lane_zip hi, lane_set1Epi8 hi, lane_hiNib hn hi]
    rfl
  have hentry := lane_shuffle_table hn hi hroll (hindex ▸ rollIndex_lt _)
  rw [hindex] at hentry
  rw [decodeVals, addEpi8, lane_zip hi, ← addEpi8, hentry]
  rfl

theorem saturate16_of_lt {x : Nat} (h : x < 4096) : saturate16 (x : Int) = BitVec.ofNat 16 x := by
  have hmax : max (-32768) (min 32767 (x : Int)) = x := by omega
  rw [saturate16, hmax, BitVec.ofInt_natCast]

theorem signExtend_ofNat {x : Nat} (h : x < 32768) :
    (BitVec.ofNat 16 x).signExtend 32 = BitVec.ofNat 32 x := by
  have hmsb : (BitVec.ofNat 16 x).msb = false := by
    rw [BitVec.msb_eq_false_iff_two_mul_lt, BitVec.toNat_ofNat]
    omega
  rw [BitVec.signExtend_eq_setWidth_of_msb_false hmsb]
  apply BitVec.eq_of_toNat_eq
  rw [BitVec.toNat_setWidth, BitVec.toNat_ofNat, BitVec.toNat_ofNat]
  omega

theorem lane_maddubs_pair {vals : BitVec n} {q j : Nat} {a b : Sextet} (hq : 32 * (q + 1) ≤ n)
    (hj : j < 2) (ha : lane 8 vals (4 * q + 2 * j) = a.setWidth 8)
    (hb : lane 8 vals (4 * q + (2 * j + 1)) = b.setWidth 8) :
    lane 16 (maddubsEpi16 vals (set1Epi32 n 0x01400140)) (2 * q + j) =
      BitVec.ofNat 16 (a.toNat * 64 + b.toNat) := by
  have hconst : ∀ k < 4, lane 8 (set1Epi32 n 0x01400140) (4 * q + k) = lane 8 0x01400140#32 k :=
    fun k hk => lane_set1Epi32 hq rfl hk
  have heven : 2 * (2 * q + j) = 4 * q + 2 * j := by omega
  have hc : (lane 8 0x01400140#32 (2 * j)).toInt = 64 ∧
      (lane 8 0x01400140#32 (2 * j + 1)).toInt = 1 := by
    match j, hj with
    | 0, _ => decide
    | 1, _ => decide
  have hlta := a.isLt
  have hltb := b.isLt
  have hna : (a.setWidth 8 : Byte).toNat = a.toNat := by
    rw [BitVec.toNat_setWidth]
    omega
  have hnb : (b.setWidth 8 : Byte).toNat = b.toNat := by
    rw [BitVec.toNat_setWidth]
    omega
  have hsum : (a.toNat : Int) * 64 + b.toNat = ((a.toNat * 64 + b.toNat : Nat) : Int) := by omega
  rw [lane_maddubsEpi16 (by omega), heven, Nat.add_assoc, ha, hb, hconst _ (by omega),
    hconst _ (by omega), hc.1, hc.2, hna, hnb, Int.mul_one, hsum]
  exact saturate16_of_lt (by omega)

/-- **The multiplications** put the bits of a quad together. -/
theorem lane_decodeMerge {vals : BitVec n} {q : Nat} {v0 v1 v2 v3 : Sextet}
    (hq : 32 * (q + 1) ≤ n) (h0 : lane 8 vals (4 * q + 0) = v0.setWidth 8)
    (h1 : lane 8 vals (4 * q + 1) = v1.setWidth 8) (h2 : lane 8 vals (4 * q + 2) = v2.setWidth 8)
    (h3 : lane 8 vals (4 * q + 3) = v3.setWidth 8) :
    lane 32 (decodeMerge vals) q = (quadBits v0 v1 v2 v3).setWidth 32 := by
  have hlow := lane_maddubs_pair (j := 0) hq (by omega) h0 h1
  have hhigh := lane_maddubs_pair (j := 1) hq (by omega) h2 h3
  have hc0 : lane 16 (set1Epi32 n 0x00011000) (2 * q + 0) = 0x1000 :=
    lane_set1Epi32 (k := 2) hq rfl (by omega)
  have hc1 : lane 16 (set1Epi32 n 0x00011000) (2 * q + 1) = 0x0001 :=
    lane_set1Epi32 (k := 2) hq rfl (by omega)
  have hlt0 := v0.isLt
  have hlt1 := v1.isLt
  have hlt2 := v2.isLt
  have hlt3 := v3.isLt
  have hk0 : (0x1000 : BitVec 16).signExtend 32 = BitVec.ofNat 32 4096 := rfl
  have hk1 : (0x0001 : BitVec 16).signExtend 32 = BitVec.ofNat 32 1 := rfl
  rw [Nat.add_zero] at hlow hc0
  rw [decodeMerge, lane_maddEpi16 hq, hlow, hhigh, hc0, hc1, signExtend_ofNat (by omega),
    signExtend_ofNat (by omega), hk0, hk1, ← BitVec.ofNat_mul, ← BitVec.ofNat_mul,
    ← BitVec.ofNat_add]
  apply BitVec.eq_of_toNat_eq
  rw [BitVec.toNat_setWidth, toNat_quadBits, BitVec.toNat_ofNat, Nat.mul_one]

/-- The loaded register of a block. -/
def loaded (n : Nat) (src : List Byte) (s : Nat) : BitVec n := ofLanes n fun i => src.getD (s + i) 0

theorem holdsQuads_x86 {lutRoll : BitVec n} (hn : n = 128 * m)
    (hroll : LaneTable lutRoll decodeLutRoll) (src : List Byte) (s : Nat) :
    HoldsQuads (decodeMerge (decodeVals lutRoll (loaded n src s))) src s := by
  intro q hq v0 v1 v2 v3 h0 h1 h2 h3
  have hval : ∀ k < 4, ∀ w : Sextet, value (src.getD (s + (4 * q + k)) 0) = some w →
      lane 8 (decodeVals lutRoll (loaded n src s)) (4 * q + k) = w.setWidth 8 := by
    intro k hk w hw
    rw [lane_decodeVals hn (by omega) hroll, loaded, lane_loaded (by omega)]
    exact (nibbles_eq _).2 w hw
  exact lane_decodeMerge hq (hval 0 (by omega) v0 h0) (hval 1 (by omega) v1 h1)
    (hval 2 (by omega) v2 h2) (hval 3 (by omega) v3 h3)

theorem decodeClean_block {lutLo lutHi : BitVec n} (hn : n = 128 * m)
    (hlo : LaneTable lutLo decodeLutLo) (hhi : LaneTable lutHi decodeLutHi) {src : List Byte}
    {s : Nat} (hin : s + 16 * m ≤ src.length) :
    decodeClean lutLo lutHi (loaded n src s) = true ↔
      ∀ c ∈ (src.drop s).take (16 * m), inAlphabet c = true := by
  rw [decodeClean_iff hn hlo hhi, forall_block hin]
  apply forall_congr'
  intro i
  apply imp_congr_right
  intro hi
  rw [loaded, lane_loaded (by omega)]

/-! ## The SSE4.1 kernel -/

theorem decodeLoopSse41_computes :
    decodeLoopSse41.Computes (fun c => inAlphabet c = true) decode := by
  have hload : ∀ {src : List Byte} {s : Nat}, s + 16 ≤ src.length →
      loadu 128 src s = some (loaded 128 src s) := fun hin => loadu_of_le hin
  have htest : ∀ {src : List Byte} {s : Nat}, s + 16 ≤ src.length →
      (decodeClean (setrEpi8 128 decodeLutLo) (setrEpi8 128 decodeLutHi) (loaded 128 src s) = true ↔
        ∀ c ∈ (src.drop s).take 16, inAlphabet c = true) :=
    fun hin => decodeClean_block (m := 1) rfl (laneTable_one _) (laneTable_one _) hin
  have hconst : ∀ q < 4, ∀ k < 3, (decodePack.getD (3 * q + k) 0).msb = false ∧
      16 * ((3 * q + k) / 16) + (decodePack.getD (3 * q + k) 0 &&& 0x0f).toNat =
        4 * q + (2 - k) := by decide
  apply decode_computes decodeLoopSse41 ⟨4, rfl⟩ rfl
  · intro src s d buf hin hclean
    have hquads := holdsQuads_x86 (m := 1) rfl (laneTable_one decodeLutRoll) src s
    have hbytes := toList_decoded (m := 4)
      (shuffleEpi8 (decodeMerge (decodeVals (setrEpi8 128 decodeLutRoll)
        (loaded 128 src s))) (setrEpi8 128 decodePack)) (by omega) hin hclean hquads (by
      intro q hq k hk
      obtain ⟨hmsb, hindex⟩ := hconst q hq k hk
      rw [lane_shuffleEpi8_setrEpi8 (by omega) hmsb, hindex])
    simp only [decodeLoopSse41, hload hin, (htest hin).mpr hclean, if_true]
    exact congrArg (fun bytes => Pass.next (buf.storeList d bytes)) hbytes
  · intro src s d buf hin hdirty
    simp only [decodeLoopSse41, hload hin, if_neg (mt (htest hin).mp hdirty)]

theorem decodeBulkSse41_spec (src : List Byte) (buf : OutBuf Byte) :
    ∃ n, BulkDecoded 16 src buf n (decodeBulkSse41 src src.length buf) :=
  decode_run ⟨4, rfl⟩ rfl decodeLoopSse41_computes src buf

/-! ## The AVX2 kernel -/

theorem decodeLoopAvx2_computes :
    decodeLoopAvx2.Computes (fun c => inAlphabet c = true) decode := by
  have hload : ∀ {src : List Byte} {s : Nat}, s + 32 ≤ src.length →
      loadu 256 src s = some (loaded 256 src s) := fun hin => loadu_of_le hin
  have htest : ∀ {src : List Byte} {s : Nat}, s + 32 ≤ src.length →
      (decodeClean (setrEpi8 256 (decodeLutLo ++ decodeLutLo))
          (setrEpi8 256 (decodeLutHi ++ decodeLutHi)) (loaded 256 src s) = true ↔
        ∀ c ∈ (src.drop s).take 32, inAlphabet c = true) :=
    fun hin => decodeClean_block (m := 2) rfl (laneTable_two _ rfl) (laneTable_two _ rfl) hin
  have hconst : ∀ q < 8, ∀ k < 3,
      let gather : List (BitVec 32) := [0, 1, 2, 4, 5, 6, 7, 7]
      let cs := decodePack ++ decodePack
      let i := 4 * (gather.getD ((3 * q + k) / 4) 0 &&& 7).toNat + (3 * q + k) % 4
      i < 32 ∧ (cs.getD i 0).msb = false ∧
        16 * (i / 16) + (cs.getD i 0 &&& 0x0f).toNat = 4 * q + (2 - k) := by decide
  apply decode_computes decodeLoopAvx2 ⟨8, rfl⟩ rfl
  · intro src s d buf hin hclean
    have hquads := holdsQuads_x86 (m := 2) rfl
      (laneTable_two decodeLutRoll rfl) src s
    have hbytes := toList_decoded (m := 8)
      (permutevar8x32Epi32 (shuffleEpi8 (decodeMerge (decodeVals
          (setrEpi8 256 (decodeLutRoll ++ decodeLutRoll)) (loaded 256 src s)))
        (setrEpi8 256 (decodePack ++ decodePack))) (setrEpi32 [0, 1, 2, 4, 5, 6, 7, 7]))
      (by omega) hin hclean hquads (by
      intro q hq k hk
      obtain ⟨hi, hmsb, hindex⟩ := hconst q hq k hk
      rw [lane_permutevar8x32Epi32 (by omega), lane_shuffleEpi8_setrEpi8 (by omega) hmsb, hindex])
    simp only [decodeLoopAvx2, hload hin, (htest hin).mpr hclean, if_true]
    exact congrArg (fun bytes => Pass.next (buf.storeList d bytes)) hbytes
  · intro src s d buf hin hdirty
    simp only [decodeLoopAvx2, hload hin, if_neg (mt (htest hin).mp hdirty)]

theorem decodeBulkAvx2_spec (src : List Byte) (buf : OutBuf Byte) :
    ∃ n, BulkDecoded 32 src buf n (decodeBulkAvx2 src src.length buf) :=
  decode_run ⟨8, rfl⟩ rfl decodeLoopAvx2_computes src buf

end X86

/-! ## The NEON kernel -/

section Neon

open Neon

variable {i : Nat} {v idx : U8x16}

/-- **Both lookups** of a byte in a register. -/
theorem lane_neonLut16 (isa : NeonIsa) (tbl : U8x16) (hi : i < 16)
    (hidx : (lane 8 idx i).toNat < 16) :
    lane 8 (neonLut16 isa tbl idx) i = lane 8 tbl (lane 8 idx i).toNat := by
  cases isa with
  | aarch64 => rw [neonLut16, lane_vqtbl1qU8 hi, if_pos hidx]
  | armv7 => rw [neonLut16, vtbl2U8_halves, lane_vqtbl1qU8 hi, if_pos hidx]

theorem lane_neonLut16_table (isa : NeonIsa) (entries : List Byte) (hi : i < 16)
    (hidx : (lane 8 idx i).toNat < 16) :
    lane 8 (neonLut16 isa (tableQ entries 0) idx) i = entries.getD (lane 8 idx i).toNat 0 := by
  rw [lane_neonLut16 isa _ hi hidx, lane_tableQ hidx, Nat.zero_add]

/-- **The validity test** accepts a register of alphabet characters. -/
theorem neonClean_iff (isa : NeonIsa) :
    neonClean isa v = true ↔ ∀ i < 16, inAlphabet (lane 8 v i) = true := by
  have hbyte : ∀ i < 16, lane 8 (neonLut16 isa (tableQ neonLutLo 0) (v &&& vdupqN (0x0f : Byte)) &&&
      neonLut16 isa (tableQ neonLutHi 0) (vshrqN 8 v 4)) i = nibbleError (lane 8 v i) := by
    intro i hi
    have hlow : lane 8 (v &&& vdupqN (0x0f : Byte)) i = lane 8 v i &&& 0x0f := by
      rw [lane_and, lane_vdupqN (by omega)]
    have hhigh : lane 8 (vshrqN 8 v 4) i = lane 8 v i >>> 4 := lane_vshrqN (by omega)
    rw [lane_and, lane_neonLut16_table isa _ hi (by rw [hlow]; exact and_low_lt _),
      lane_neonLut16_table isa _ hi (by rw [hhigh]; exact shiftRight_four_lt _), hlow, hhigh]
    rfl
  have hzero : ∀ err : U8x16, (vgetqLaneU64 err 0 ||| vgetqLaneU64 err 1) = 0 ↔ err = 0 := by
    intro err
    refine BitVec.or_eq_zero_iff.trans ?_
    rw [eq_zero_iff (w := 64) (k := 2) rfl]
    constructor
    · rintro ⟨h0, h1⟩ i hi
      obtain rfl | rfl : i = 0 ∨ i = 1 := by omega
      · exact h0
      · exact h1
    · intro h
      exact ⟨h 0 (by omega), h 1 (by omega)⟩
  rw [neonClean, beq_iff_eq, hzero, eq_zero_iff (w := 8) (k := 16) rfl]
  apply forall_congr'
  intro i
  apply imp_congr_right
  intro hi
  rw [hbyte i hi, ← (nibbles_eq _).1, beq_iff_eq]

theorem lane_neonVals (isa : NeonIsa) (hi : i < 16) :
    lane 8 (neonVals isa v) i = rolled (lane 8 v i) := by
  have hle : 8 * (i + 1) ≤ 128 := by omega
  have hindex : lane 8 (vaddqU8 (vceqqU8 v (vdupqN (0x2f : Byte))) (vshrqN 8 v 4)) i =
      rollIndex (lane 8 v i) := by
    rw [vaddqU8, lane_zip hle, vceqqU8, lane_zip hle, lane_vdupqN hle, lane_vshrqN hle]
    rfl
  have hentry := lane_neonLut16_table isa neonLutRoll hi (hindex ▸ rollIndex_lt (lane 8 v i))
  rw [hindex] at hentry
  rw [neonVals, vaddqU8, lane_zip hle, ← vaddqU8, hentry]
  rfl

/-- The shifts of the packing: the field below is moved above the one above it. -/
theorem toNat_pack (hi : Nat) {w k s lo : Nat} {x mask : BitVec w} (hx : x.toNat = 2 ^ s * hi + lo)
    (hmask : mask.toNat = 2 ^ k - 1) (hlo : lo < 2 ^ k) (hhi : hi < 2 ^ k) (hk : k + k ≤ w)
    (hs : k ≤ s) : ((x &&& mask) <<< k ||| x >>> s).toNat = lo * 2 ^ k + hi := by
  have hpow : 2 ^ s = 2 ^ k * 2 ^ (s - k) := by
    rw [← Nat.pow_add, Nat.add_sub_cancel' hs]
  have hle : 2 ^ k ≤ 2 ^ s := Nat.pow_le_pow_right (by omega) hs
  have hmod : (2 ^ s * hi + lo) % 2 ^ k = lo := by
    rw [hpow, Nat.mul_assoc, Nat.mul_add_mod, Nat.mod_eq_of_lt hlo]
  have hdiv : (2 ^ s * hi + lo) / 2 ^ s = hi := by
    rw [Nat.mul_add_div (Nat.two_pow_pos s), Nat.div_eq_of_lt (by omega), Nat.add_zero]
  have hlt : lo * 2 ^ k < 2 ^ w := calc
    lo * 2 ^ k < 2 ^ k * 2 ^ k := Nat.mul_lt_mul_of_pos_right hlo (Nat.two_pow_pos k)
    _ = 2 ^ (k + k) := (Nat.pow_add 2 k k).symm
    _ ≤ 2 ^ w := Nat.pow_le_pow_right (by omega) hk
  rw [BitVec.toNat_or, BitVec.toNat_shiftLeft, BitVec.toNat_and, hmask,
    Nat.and_two_pow_sub_one_eq_mod, BitVec.toNat_ushiftRight, hx, hmod, Nat.shiftRight_eq_div_pow,
    hdiv, Nat.shiftLeft_eq, Nat.mod_eq_of_lt hlt, ← Nat.shiftLeft_eq,
    ← Nat.shiftLeft_add_eq_or_of_lt hhi, Nat.shiftLeft_eq]

/-- **The shifts** put the bits of a quad together. -/
theorem lane_neonMerge {vals : U8x16} {q : Nat} {v0 v1 v2 v3 : Sextet} (hq : q < 4)
    (h0 : lane 8 vals (4 * q + 0) = v0.setWidth 8) (h1 : lane 8 vals (4 * q + 1) = v1.setWidth 8)
    (h2 : lane 8 vals (4 * q + 2) = v2.setWidth 8) (h3 : lane 8 vals (4 * q + 3) = v3.setWidth 8) :
    lane 32 (neonMerge vals) q = (quadBits v0 v1 v2 v3).setWidth 32 := by
  have hlt0 := v0.isLt
  have hlt1 := v1.isLt
  have hlt2 := v2.isLt
  have hlt3 := v3.isLt
  have hpair : ∀ (j : Nat) (a b : Sextet), j < 2 →
      lane 8 vals (4 * q + 2 * j) = a.setWidth 8 →
      lane 8 vals (4 * q + (2 * j + 1)) = b.setWidth 8 →
      (lane 16 (vshlqN 16 (vals &&& vdupqN (0x003f : BitVec 16)) 6 ||| vshrqN 16 vals 8)
        (2 * q + j)).toNat = a.toNat * 64 + b.toNat := by
    intro j a b hj ha hb
    have hle : 16 * (2 * q + j + 1) ≤ 128 := by omega
    have hlta := a.isLt
    have hltb := b.isLt
    have hindex : 2 * (2 * q + j) = 4 * q + 2 * j := by omega
    have hhalves := lane_halves 8 vals (2 * q + j)
    rw [hindex, Nat.add_assoc, ha, hb] at hhalves
    have hnat := congrArg BitVec.toNat hhalves
    rw [toNat_append_eq, BitVec.toNat_setWidth, BitVec.toNat_setWidth] at hnat
    rw [lane_or, lane_vshlqN hle, lane_and, lane_vdupqN hle, lane_vshrqN hle]
    exact toNat_pack b.toNat (hnat.trans (by omega)) rfl hlta hltb (by omega) (by omega)
  have hlow := hpair 0 v0 v1 (by omega) h0 h1
  have hhigh := hpair 1 v2 v3 (by omega) h2 h3
  have hle : 32 * (q + 1) ≤ 128 := by omega
  rw [Nat.add_zero] at hlow
  rw [neonMerge]
  generalize (vshlqN 16 (vals &&& vdupqN (0x003f : BitVec 16)) 6 ||| vshrqN 16 vals 8) = b12
    at hlow hhigh ⊢
  have hnat := congrArg BitVec.toNat (lane_halves 16 b12 q)
  rw [toNat_append_eq, hhigh, hlow] at hnat
  apply BitVec.eq_of_toNat_eq
  rw [lane_or, lane_vshlqN hle, lane_and, lane_vdupqN hle, lane_vshrqN hle,
    BitVec.toNat_setWidth, toNat_quadBits, Nat.mod_eq_of_lt (by omega)]
  exact toNat_pack (v2.toNat * 64 + v3.toNat) (hnat.trans (by omega)) rfl (by omega)
    (by omega) (by omega) (by omega)

theorem decodeLoopNeon_computes (isa : NeonIsa) :
    (decodeLoopNeon isa).Computes (fun c => inAlphabet c = true) decode := by
  have hload : ∀ {src : List Byte} {s : Nat}, s + 16 ≤ src.length →
      vld1qU8 src s = some (loaded 128 src s) := fun hin => if_pos hin
  have hlane : ∀ (src : List Byte) (s : Nat), ∀ i < 16,
      lane 8 (loaded 128 src s) i = src.getD (s + i) 0 := fun _ _ i _ => lane_ofLanes (by omega)
  have htest : ∀ {src : List Byte} {s : Nat}, s + 16 ≤ src.length →
      (neonClean isa (loaded 128 src s) = true ↔
        ∀ c ∈ (src.drop s).take 16, inAlphabet c = true) := by
    intro src s hin
    rw [neonClean_iff, forall_block hin]
    apply forall_congr'
    intro i
    apply imp_congr_right
    intro hi
    rw [hlane src s i hi]
  have hconst : ∀ q < 4, ∀ k < 3, (neonPackIdx.getD (3 * q + k) 0).toNat = 4 * q + (2 - k) := by
    decide
  apply decode_computes (decodeLoopNeon isa) ⟨4, rfl⟩ (by simp [decodeLoopNeon])
  · intro src s d buf hin hclean
    have hquads : HoldsQuads (neonMerge (neonVals isa (loaded 128 src s))) src s := by
      intro q hq v0 v1 v2 v3 h0 h1 h2 h3
      have hval : ∀ k < 4, ∀ w : Sextet, value (src.getD (s + (4 * q + k)) 0) = some w →
          lane 8 (neonVals isa (loaded 128 src s)) (4 * q + k) = w.setWidth 8 := by
        intro k hk w hw
        rw [lane_neonVals isa (by omega), hlane src s _ (by omega)]
        exact (nibbles_eq _).2 w hw
      exact lane_neonMerge (by omega) (hval 0 (by omega) v0 h0) (hval 1 (by omega) v1 h1)
        (hval 2 (by omega) v2 h2) (hval 3 (by omega) v3 h3)
    have hbytes := toList_decoded (m := 4)
      (neonLut16 isa (neonMerge (neonVals isa (loaded 128 src s))) (tableQ neonPackIdx 0))
      (by omega) hin hclean hquads (by
      intro q hq k hk
      have hindex : lane 8 (tableQ neonPackIdx 0) (3 * q + k) =
          neonPackIdx.getD (3 * q + k) 0 := by
        rw [lane_tableQ (by omega), Nat.zero_add]
      have hpack := hconst q hq k hk
      rw [← hindex] at hpack
      rw [lane_neonLut16 isa _ (by omega) (by omega), hpack])
    simp only [decodeLoopNeon, hload hin, (htest hin).mpr hclean, if_true]
    exact congrArg (fun bytes => Pass.next (buf.storeList d bytes)) hbytes
  · intro src s d buf hin hdirty
    simp only [decodeLoopNeon, hload hin, if_neg (mt (htest hin).mp hdirty)]

theorem decodeBulkNeon_spec (isa : NeonIsa) (src : List Byte) (buf : OutBuf Byte) :
    ∃ n, BulkDecoded 16 src buf n (decodeBulkNeon isa src src.length buf) :=
  decode_run ⟨4, rfl⟩ rfl (decodeLoopNeon_computes isa) src buf

end Neon

end Libb64
