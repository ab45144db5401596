import Libb64.Verify.SimdBlocks
import Libb64.CencodeSimdSse
import Libb64.CencodeSimdNeon

/-!
# The encode kernels

Each group of three bytes goes through the registers on its own: the shuffles bring it into one
dword, the masks and multiplications cut it into the four sextets, and each byte of the result is
mapped to its character. The registers hold several groups side by side, and a pass stores the
encoding of its block.
-/

namespace Libb64

open BitString Rfc4648 Lanes X86

variable {n : Nat}

/-! ## Cutting a group -/

theorem mulhi_pow (a : BitVec 16) {c : BitVec 16} {k : Nat} (hk : k ≤ 16) (hc : c.toNat = 2 ^ k) :
    ((a.setWidth 32 * c.setWidth 32) >>> 16).setWidth 16 = a >>> (16 - k) := by
  have ha := a.isLt
  have hpow : 2 ^ k ≤ 2 ^ 16 := Nat.pow_le_pow_right (by omega) hk
  have hlt : a.toNat * 2 ^ k < 2 ^ 32 := calc
    a.toNat * 2 ^ k < 2 ^ 16 * 2 ^ 16 := Nat.mul_lt_mul_of_lt_of_le ha hpow (by omega)
    _ = 2 ^ 32 := by omega
  have hsplit : 2 ^ 16 = 2 ^ (16 - k) * 2 ^ k := by
    rw [← Nat.pow_add, Nat.sub_add_cancel hk]
  have hdiv : a.toNat * 2 ^ k / 2 ^ 16 = a.toNat / 2 ^ (16 - k) := by
    rw [hsplit, Nat.mul_div_mul_right _ _ (Nat.two_pow_pos k)]
  have hle : a.toNat / 2 ^ (16 - k) ≤ a.toNat := Nat.div_le_self ..
  apply BitVec.eq_of_toNat_eq
  simp only [BitVec.toNat_setWidth, BitVec.toNat_ushiftRight, BitVec.toNat_mul, hc,
    Nat.shiftRight_eq_div_pow]
  rw [Nat.mod_eq_of_lt (a := a.toNat) (by omega), Nat.mod_eq_of_lt (a := 2 ^ k) (by omega),
    Nat.mod_eq_of_lt hlt, hdiv, Nat.mod_eq_of_lt (by omega)]

section Halves

variable (src0 src1 src2 : Byte)

theorem joined_high : (joined src0 src1 src2).extractLsb' 8 16 = src0 ++ src1 := by
  ext i hi
  simp [joined]
  grind

theorem joined_low : (joined src0 src1 src2).extractLsb' 0 16 = src1 ++ src2 := by
  ext i hi
  simp [joined]
  grind

end Halves

/-- The first two bytes of a group give the first two sextets. -/
theorem cut_high (x : BitVec 24) :
    let cut := (x.extractLsb' 8 16 &&& 0xfc00) >>> 10 ||| (x.extractLsb' 8 16 &&& 0x03f0) <<< 4
    lane 8 cut 0 = (x.extractLsb' 18 6).setWidth 8 ∧
      lane 8 cut 1 = (x.extractLsb' 12 6).setWidth 8 := by
  constructor <;>
    · apply ofDigit_injective
      simp [lane, ofDigit, List.range_succ]

/-- The last two bytes of a group give the last two sextets. -/
theorem cut_low (x : BitVec 24) :
    let cut := (x.extractLsb' 0 16 &&& 0x0fc0) >>> 6 ||| (x.extractLsb' 0 16 &&& 0x003f) <<< 8
    lane 8 cut 0 = (x.extractLsb' 6 6).setWidth 8 ∧
      lane 8 cut 1 = (x.extractLsb' 0 6).setWidth 8 := by
  constructor <;>
    · apply ofDigit_injective
      simp [lane, ofDigit, List.range_succ]

/-- Dword `q` holds a group in the order in which the shuffle leaves it. -/
structure HoldsGroup (v : BitVec n) (q : Nat) (src0 src1 src2 : Byte) : Prop where
  byte0 : lane 8 v (4 * q) = src1
  byte1 : lane 8 v (4 * q + 1) = src0
  byte2 : lane 8 v (4 * q + 2) = src2
  byte3 : lane 8 v (4 * q + 3) = src1

section Group

variable {v : BitVec n} {q : Nat} {src0 src1 src2 : Byte}

/-- The masks and multiplications, on the two halves of a dword. -/
theorem halves_encodeIndices (hq : 32 * (q + 1) ≤ n) (h : HoldsGroup v q src0 src1 src2) :
    let x := joined src0 src1 src2
    lane 16 (encodeIndices v) (2 * q) =
        (x.extractLsb' 8 16 &&& 0xfc00) >>> 10 ||| (x.extractLsb' 8 16 &&& 0x03f0) <<< 4 ∧
      lane 16 (encodeIndices v) (2 * q + 1) =
        (x.extractLsb' 0 16 &&& 0x0fc0) >>> 6 ||| (x.extractLsb' 0 16 &&& 0x003f) <<< 8 := by
  have hhigh : lane 16 v (2 * q) = src0 ++ src1 := by
    have hcut := lane_halves 8 v (2 * q)
    rw [← Nat.mul_assoc, h.byte0, h.byte1] at hcut
    exact hcut
  have hlow : lane 16 v (2 * q + 1) = src1 ++ src2 := by
    have hcut := lane_halves 8 v (2 * q + 1)
    rw [Nat.mul_add, ← Nat.mul_assoc, h.byte2, h.byte3] at hcut
    exact hcut
  have h0 : 16 * (2 * q + 1) ≤ n := by omega
  have h1 : 16 * (2 * q + 1 + 1) ≤ n := by omega
  have hset0 : ∀ c : BitVec 32, lane 16 (set1Epi32 n c) (2 * q) = lane 16 c 0 :=
    fun c => lane_set1Epi32 (j := 0) hq rfl (by omega)
  have hset1 : ∀ c : BitVec 32, lane 16 (set1Epi32 n c) (2 * q + 1) = lane 16 c 1 :=
    fun c => lane_set1Epi32 (j := 1) hq rfl (by omega)
  constructor
  · rw [encodeIndices, lane_or, mulhiEpu16, mulloEpi16, lane_zip h0, lane_zip h0, lane_and,
      lane_and, hhigh, hset0, hset0, hset0, hset0, joined_high,
      mulhi_pow _ (k := 6) (by decide) (by decide)]
    exact congrArg _ (BitVec.mul_twoPow_eq_shiftLeft _ 4)
  · rw [encodeIndices, lane_or, mulhiEpu16, mulloEpi16, lane_zip h1, lane_zip h1, lane_and,
      lane_and, hlow, hset1, hset1, hset1, hset1, joined_low,
      mulhi_pow _ (k := 10) (by decide) (by decide)]
    exact congrArg _ (BitVec.mul_twoPow_eq_shiftLeft _ 8)

/-- **The four indices of a group** are its sextets. -/
theorem lane_encodeIndices (hq : 32 * (q + 1) ≤ n) (h : HoldsGroup v q src0 src1 src2) {k : Nat}
    (hk : k < 4) : lane 8 (encodeIndices v) (4 * q + k) =
      ((joined src0 src1 src2).extractLsb' (18 - 6 * k) 6).setWidth 8 := by
  obtain ⟨hhigh, hlow⟩ := halves_encodeIndices hq h
  obtain ⟨h0, h1⟩ := cut_high (joined src0 src1 src2)
  obtain ⟨h2, h3⟩ := cut_low (joined src0 src1 src2)
  rw [← hhigh] at h0 h1
  rw [← hlow] at h2 h3
  have hbyte : ∀ i, ∀ j < 2, lane 8 (lane 16 (encodeIndices v) i) j =
      lane 8 (encodeIndices v) (2 * i + j) :=
    fun i j hj => lane_lane (w := 8) (encodeIndices v) (i := i) hj
  rw [hbyte _ 0 (by omega)] at h0 h2
  rw [hbyte _ 1 (by omega)] at h1 h3
  rw [Nat.mul_add, ← Nat.mul_assoc] at h2 h3
  rw [← Nat.mul_assoc] at h0 h1
  match k, hk with
  | 0, _ => exact h0
  | 1, _ => exact h1
  | 2, _ => exact h2
  | 3, _ => exact h3

end Group

/-! ## The characters of the indices -/

/-- The mapping of an index, seen in one byte. -/
def asciiOfIndex (index : Byte) : Byte :=
  let reduced : Byte := (if index < 51 then 0 else index - 51) -
    (if (25 : Byte).slt index then 0xff else 0)
  index + (if reduced.msb then 0 else encodeLut.getD (reduced &&& 0x0f).toNat 0)

theorem asciiOfIndex_eq (s : Sextet) : asciiOfIndex (s.setWidth 8) = symbol s := by
  have hall : ∀ s : Sextet, (asciiOfIndex (s.setWidth 8) == symbol s) = true :=
    forall_of_all (by decide +kernel)
  exact eq_of_beq (hall s)

theorem lane_encodeAscii {m i : Nat} {lut indices : BitVec n} (hn : n = 128 * m)
    (hi : 8 * (i + 1) ≤ n) (hlut : LaneTable lut encodeLut) :
    lane 8 (encodeAscii lut indices) i = asciiOfIndex (lane 8 indices i) := by
  have hselect : ∀ j < 16, lane 8 lut (16 * (i / 16) + j) = encodeLut.getD j 0 :=
    fun j hj => hlut (i / 16) j hj (by omega)
  have hlow : ∀ x : Byte, (x &&& 0x0f).toNat < 16 := by
    intro x
    have hle : (x &&& 0x0f).toNat ≤ 15 := by
      rw [BitVec.toNat_and]
      exact Nat.and_le_right
    omega
  rw [encodeAscii, addEpi8, lane_zip hi, lane_shuffleEpi8 hi, subEpi8, lane_zip hi, subsEpu8,
    lane_zip hi, cmpgtEpi8, lane_zip hi, lane_set1Epi8 hi, lane_set1Epi8 hi,
    hselect _ (hlow _)]
  rfl

/-! ## Passes -/

/-- The groups of a block, each in its dword. -/
def HoldsBlock (v : BitVec n) (src : List Byte) (s : Nat) : Prop :=
  ∀ q, 32 * (q + 1) ≤ n →
    HoldsGroup v q (src.getD (s + 3 * q) 0) (src.getD (s + 3 * q + 1) 0)
      (src.getD (s + 3 * q + 2) 0)

/-- **The register that a pass stores** holds the encoding of its block. -/
theorem toList_encoded {v lut : BitVec n} {src : List Byte} {s m : Nat} (hn : n = 128 * m)
    (hlen : s + 3 * (4 * m) ≤ src.length) (hv : HoldsBlock v src s)
    (hlut : LaneTable lut encodeLut) :
    toList 8 (encodeAscii lut (encodeIndices v)) (4 * (4 * m)) =
      encode ((src.drop s).take (3 * (4 * m))) := by
  rw [toList_mul, take_drop_eq_rows src hlen, encode_rows _ (by simp)]
  apply List.flatMap_congr
  intro q hq
  rw [List.mem_range] at hq
  have hdword : 32 * (q + 1) ≤ n := by omega
  have hbyte : ∀ k < 4, lane 8 (encodeAscii lut (encodeIndices v)) (4 * q + k) =
      symbol ((joined (src.getD (s + 3 * q) 0) (src.getD (s + 3 * q + 1) 0)
        (src.getD (s + 3 * q + 2) 0)).extractLsb' (18 - 6 * k) 6) := by
    intro k hk
    rw [lane_encodeAscii hn (by omega) hlut, lane_encodeIndices hdword (hv q hdword) hk,
      asciiOfIndex_eq]
  have htriple := encode_triple (src.getD (s + 3 * q) 0) (src.getD (s + 3 * q + 1) 0)
    (src.getD (s + 3 * q + 2) 0)
  have hrow : (List.range 3).map (fun j => src.getD (s + (3 * q + j)) 0) =
      [src.getD (s + 3 * q) 0, src.getD (s + 3 * q + 1) 0, src.getD (s + 3 * q + 2) 0] := rfl
  rw [hrow, htriple]
  simp only [List.range_succ, List.range_zero, List.nil_append, List.cons_append, List.map_cons,
    List.map_nil, hbyte 0 (by omega), hbyte 1 (by omega), hbyte 2 (by omega),
    hbyte 3 (by omega)]

/-- An aligned store, streamed or not. -/
theorem encodeStore_eq {useNt : Bool} {dst d : Nat}
    (h : useNt = true → (dst + d) % (n / 8) = 0) (out : BitVec n) (buf : OutBuf Byte) :
    encodeStore useNt dst d out buf = .next (buf.storeList d (toList 8 out (n / 8))) := by
  cases useNt with
  | false => rfl
  | true =>
    have haligned := h rfl
    simp only [encodeStore, stream, haligned, if_true, storeu]

/-! ## The SSE4.1 kernel -/

/-- Where the bytes of a dword come from within their group. -/
def groupOrder (k : Nat) : Nat := [1, 0, 2, 1].getD k 0

theorem HoldsBlock.of_bytes {v : BitVec n} {src : List Byte} {s : Nat}
    (h : ∀ q, 32 * (q + 1) ≤ n → ∀ k < 4,
      lane 8 v (4 * q + k) = src.getD (s + (3 * q + groupOrder k)) 0) : HoldsBlock v src s := by
  intro q hq
  exact ⟨h q hq 0 (by omega), h q hq 1 (by omega), h q hq 2 (by omega), h q hq 3 (by omega)⟩

theorem holdsBlock_sse41 (src : List Byte) (s : Nat) :
    HoldsBlock (shuffleEpi8 (ofLanes 128 fun i => src.getD (s + i) 0)
      (setEpi8 128 encodeShuf)) src s := by
  have hconst : ∀ q < 4, ∀ k < 4, (encodeShuf.reverse.getD (4 * q + k) 0).msb = false ∧
      16 * ((4 * q + k) / 16) + (encodeShuf.reverse.getD (4 * q + k) 0 &&& 0x0f).toNat =
        3 * q + groupOrder k ∧ 3 * q + groupOrder k < 16 := by decide
  apply HoldsBlock.of_bytes
  intro q hq k hk
  obtain ⟨hmsb, hindex, hlt⟩ := hconst q (by omega) k hk
  rw [setEpi8, lane_shuffleEpi8_setrEpi8 (by omega) hmsb, hindex, lane_loaded (by omega)]

theorem encodeLoopSse41_computes {useNt : Bool} {dst : Nat} (h : useNt = true → dst % 16 = 0) :
    (encodeLoopSse41 useNt dst).Computes (fun _ => True) encode := by
  apply encode_computes (encodeLoopSse41 useNt dst) ⟨4, rfl⟩ (by simp [encodeLoopSse41])
  intro src s d buf hin hd
  have hload : loadu 128 src s = some (ofLanes 128 fun i => src.getD (s + i) 0) := loadu_of_le hin
  have halign : useNt = true → (dst + d) % (128 / 8) = 0 := by
    intro hnt
    have hdst := h hnt
    have hd16 : 16 ∣ d := hd
    omega
  have hin16 : s + 16 ≤ src.length := hin
  have hout := toList_encoded (m := 1) rfl (by omega) (holdsBlock_sse41 src s)
    (laneTable_one encodeLut)
  simp only [encodeLoopSse41, hload, encodeStore_eq halign]
  exact congrArg (fun bytes => Pass.next (buf.storeList d bytes)) hout

theorem encodeBulkSse41_spec (src : List Byte) (dst : Nat) (buf : OutBuf Byte) :
    BulkEncoded src buf (12 * ((src.length - 4) / 12))
      (encodeBulkSse41 src src.length dst buf) := by
  have hnt : decide (src.length ≥ b64NtEncodeMin ∧ dst &&& 15 = 0) = true → dst % 16 = 0 := by
    intro h
    have hmask := Nat.and_two_pow_sub_one_eq_mod dst 4
    exact hmask.symm.trans (of_decide_eq_true h).2
  exact encode_run ⟨4, rfl⟩ (encodeLoopSse41_computes hnt) src buf

/-! ## The AVX2 kernel -/

theorem holdsBlock_avx2 (src : List Byte) (s : Nat) :
    HoldsBlock (shuffleEpi8 (permutevar8x32Epi32 (ofLanes 256 fun i => src.getD (s + i) 0)
      (setrEpi32 [0, 1, 2, 3, 3, 4, 5, 6])) (setEpi8 256 (encodeShuf ++ encodeShuf))) src s := by
  have hconst : ∀ q < 8, ∀ k < 4,
      let cs := (encodeShuf ++ encodeShuf).reverse
      let i := 16 * ((4 * q + k) / 16) + (cs.getD (4 * q + k) 0 &&& 0x0f).toNat
      let perm : List (BitVec 32) := [0, 1, 2, 3, 3, 4, 5, 6]
      (cs.getD (4 * q + k) 0).msb = false ∧ i < 32 ∧
        4 * (perm.getD (i / 4) 0 &&& 7).toNat + i % 4 = 3 * q + groupOrder k ∧
        3 * q + groupOrder k < 32 := by decide
  apply HoldsBlock.of_bytes
  intro q hq k hk
  obtain ⟨hmsb, hi, hindex, hlt⟩ := hconst q (by omega) k hk
  rw [setEpi8, lane_shuffleEpi8_setrEpi8 (by omega) hmsb, lane_permutevar8x32Epi32 hi, hindex,
    lane_loaded (by omega)]

theorem encodeLoopAvx2_computes {useNt : Bool} {dst : Nat} (h : useNt = true → dst % 32 = 0) :
    (encodeLoopAvx2 useNt dst).Computes (fun _ => True) encode := by
  apply encode_computes (encodeLoopAvx2 useNt dst) ⟨8, rfl⟩ (by simp [encodeLoopAvx2])
  intro src s d buf hin hd
  have hload : loadu 256 src s = some (ofLanes 256 fun i => src.getD (s + i) 0) := loadu_of_le hin
  have halign : useNt = true → (dst + d) % (256 / 8) = 0 := by
    intro hnt
    have hdst := h hnt
    have hd32 : 32 ∣ d := hd
    omega
  have hin32 : s + 32 ≤ src.length := hin
  have hout := toList_encoded (m := 2) rfl (by omega) (holdsBlock_avx2 src s)
    (laneTable_two encodeLut rfl)
  simp only [encodeLoopAvx2, hload, encodeStore_eq halign]
  exact congrArg (fun bytes => Pass.next (buf.storeList d bytes)) hout

theorem encodeBulkAvx2_spec (src : List Byte) (dst : Nat) (buf : OutBuf Byte) :
    BulkEncoded src buf (24 * ((src.length - 8) / 24))
      (encodeBulkAvx2 src src.length dst buf) := by
  have hnt : decide (src.length ≥ b64NtEncodeMin ∧ dst &&& 31 = 0) = true → dst % 32 = 0 := by
    intro h
    have hmask := Nat.and_two_pow_sub_one_eq_mod dst 5
    exact hmask.symm.trans (of_decide_eq_true h).2
  exact encode_run ⟨8, rfl⟩ (encodeLoopAvx2_computes hnt) src buf

/-! ## The NEON kernel -/

open Neon

section Neon

variable {a b c idx : U8x16} {i : Nat}

/-- The shifts and masks, on the three bytes of a group. -/
theorem neon_cut (x : BitVec 24) :
    x.extractLsb' 16 8 >>> 2 = (x.extractLsb' 18 6).setWidth 8 ∧
      (x.extractLsb' 16 8 &&& 0x03) <<< 4 ||| x.extractLsb' 8 8 >>> 4 =
        (x.extractLsb' 12 6).setWidth 8 ∧
      (x.extractLsb' 8 8 &&& 0x0f) <<< 2 ||| x.extractLsb' 0 8 >>> 6 =
        (x.extractLsb' 6 6).setWidth 8 ∧
      x.extractLsb' 0 8 &&& 0x3f = (x.extractLsb' 0 6).setWidth 8 := by
  refine ⟨?_, ?_, ?_, ?_⟩ <;>
    · apply ofDigit_injective
      simp [ofDigit, List.range_succ]

theorem joined_bytes (src0 src1 src2 : Byte) :
    (joined src0 src1 src2).extractLsb' 16 8 = src0 ∧
      (joined src0 src1 src2).extractLsb' 8 8 = src1 ∧
      (joined src0 src1 src2).extractLsb' 0 8 = src2 := by
  refine ⟨?_, ?_, ?_⟩ <;>
    · ext i hi
      simp [joined]
      grind

/-- **The four indices of a group** are its sextets. -/
theorem lane_neonIndices (hi : i < 16) {k : Nat} (hk : k < 4) :
    lane 8 (neonIndices a b c k) i =
      ((joined (lane 8 a i) (lane 8 b i) (lane 8 c i)).extractLsb' (18 - 6 * k) 6).setWidth 8 := by
  have hle : 8 * (i + 1) ≤ 128 := by omega
  obtain ⟨h0, h1, h2, h3⟩ := neon_cut (joined (lane 8 a i) (lane 8 b i) (lane 8 c i))
  obtain ⟨ha, hb, hc⟩ := joined_bytes (lane 8 a i) (lane 8 b i) (lane 8 c i)
  rw [ha] at h0 h1
  rw [hb] at h1 h2
  rw [hc] at h2 h3
  match k, hk with
  | 0, _ =>
    rw [neonIndices, lane_vshrqN hle]
    exact h0
  | 1, _ =>
    rw [neonIndices, lane_or, lane_vshlqN hle, lane_and, lane_vdupqN hle, lane_vshrqN hle]
    exact h1
  | 2, _ =>
    rw [neonIndices, lane_or, lane_vshlqN hle, lane_and, lane_vdupqN hle, lane_vshrqN hle]
    exact h2
  | 3, _ =>
    have hlast : neonIndices a b c 3 = c &&& vdupqN (0x3f : BitVec 8) := rfl
    rw [hlast, lane_and, lane_vdupqN hle]
    exact h3

/-- The mapping of an index on ARMv7, seen in one byte. -/
def asciiOfIndexArmv7 (index : Byte) : Byte :=
  let reduced : Byte := (if index < 51 then 0 else index - 51) -
    (if 25 < index then 0xff else 0)
  index + (if reduced.toNat < 16 then offLut.getD reduced.toNat 0 else 0)

theorem asciiOfIndexArmv7_eq (s : Sextet) : asciiOfIndexArmv7 (s.setWidth 8) = symbol s := by
  have hall : ∀ s : Sextet, (asciiOfIndexArmv7 (s.setWidth 8) == symbol s) = true :=
    forall_of_all (by decide +kernel)
  exact eq_of_beq (hall s)

theorem b64Alphabet_eq_alphabet : b64Alphabet = alphabet := rfl

/-- **Both mappings** give the character of a sextet. -/
theorem lane_neonB64Ascii (isa : NeonIsa) (hi : i < 16) {s : Sextet}
    (h : lane 8 idx i = s.setWidth 8) : lane 8 (neonB64Ascii isa idx) i = symbol s := by
  have hle : 8 * (i + 1) ≤ 128 := by omega
  cases isa with
  | aarch64 =>
    have hs := s.isLt
    have hnat : (s.setWidth 8 : Byte).toNat = s.toNat := by
      rw [BitVec.toNat_setWidth]
      omega
    rw [neonB64Ascii, vqtbl4qU8, lane_map hle, h, hnat, if_pos hs, lane_tableQ (by omega),
      Nat.div_add_mod, b64Alphabet_eq_alphabet, symbol]
  | armv7 =>
    have hlow := vgetLowU8_tableQ offLut 0
    have hhigh := vgetHighU8_tableQ offLut 0
    have hentry : ∀ r : Byte, (if r.toNat < 16 then lane 8 (tableQ offLut 0) r.toNat else 0) =
        if r.toNat < 16 then offLut.getD r.toNat 0 else 0 := by
      intro r
      split
      · next hr => rw [lane_tableQ hr, Nat.zero_add]
      · rfl
    rw [Nat.zero_add] at hhigh
    rw [neonB64Ascii, ← hlow, ← hhigh, vtbl2U8_halves, vaddqU8, lane_zip hle, lane_vqtbl1qU8 hi,
      hentry, vsubqU8, lane_zip hle, vqsubqU8, lane_zip hle, vcgtqU8, lane_zip hle, lane_vdupqN hle,
      lane_vdupqN hle, h]
    exact asciiOfIndexArmv7_eq s

end Neon

/-- **A pass** stores the encoding of its block. -/
theorem encodeLoopNeon_computes (isa : NeonIsa) :
    (encodeLoopNeon isa).Computes (fun _ => True) encode := by
  apply encode_computes (encodeLoopNeon isa) ⟨16, rfl⟩ (by simp [encodeLoopNeon])
  intro src s d buf hin _
  have hin48 : s + 3 * 16 ≤ src.length := hin
  let val (k : Nat) : U8x16 := ofLanes 128 fun i => src.getD (s + (3 * i + k)) 0
  have hload : vld3qU8 src s = some (val 0, val 1, val 2) := if_pos hin
  have hval : ∀ i < 16, ∀ k, lane 8 (val k) i = src.getD (s + (3 * i + k)) 0 :=
    fun i hi k => lane_ofLanes (by omega)
  -- row `i` of the output is the encoding of group `i`
  have hrow : ∀ i < 16, ((List.range 4).map fun k =>
      lane 8 (neonB64Ascii isa (neonIndices (val 0) (val 1) (val 2) k)) i) =
        encode ((List.range 3).map fun k => src.getD (s + (3 * i + k)) 0) := by
    intro i hi
    have hbyte : ∀ k < 4, lane 8 (neonB64Ascii isa (neonIndices (val 0) (val 1) (val 2) k)) i =
        symbol ((joined (src.getD (s + (3 * i + 0)) 0) (src.getD (s + (3 * i + 1)) 0)
          (src.getD (s + (3 * i + 2)) 0)).extractLsb' (18 - 6 * k) 6) := by
      intro k hk
      rw [← hval i hi 0, ← hval i hi 1, ← hval i hi 2]
      exact lane_neonB64Ascii isa hi (lane_neonIndices hi hk)
    simp only [List.range_succ, List.range_zero, List.nil_append, List.cons_append, List.map_cons,
      List.map_nil, hbyte 0 (by omega), hbyte 1 (by omega), hbyte 2 (by omega),
      hbyte 3 (by omega), encode_triple]
  have hout : ((List.range 16).flatMap fun i => (List.range 4).map fun k =>
      lane 8 (neonB64Ascii isa (neonIndices (val 0) (val 1) (val 2) k)) i) =
        encode ((src.drop s).take (3 * 16)) := by
    rw [take_drop_eq_rows src hin48, encode_rows _ (by simp)]
    exact List.flatMap_congr fun i hi => hrow i (List.mem_range.mp hi)
  simp only [encodeLoopNeon, hload, vst4qU8]
  exact congrArg (fun bytes => Pass.next (buf.storeList d bytes)) hout

theorem encodeBulkNeon_spec (isa : NeonIsa) (src : List Byte) (buf : OutBuf Byte) :
    BulkEncoded src buf (48 * (src.length / 48)) (encodeBulkNeon isa src src.length buf) :=
  encode_run ⟨16, rfl⟩ (encodeLoopNeon_computes isa) src buf

end Libb64
