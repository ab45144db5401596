import Libb64.Verify.BlockLength
import Libb64.Verify.Streams

/-!
# The scratch blocks of the stream functions

`encoder::encode` asks for `cap + 16` bytes and stores each buffer's text there. The sum is enough
as long as it does not wrap; where it wraps, which takes a 32-bit `size_t`, lines of one or two
characters and a buffer of more than a gigabyte, the block is a few bytes long
(`encodeStream_scratchSafe_iff`). `decoder::decode` asks for `base64_decode_maxlength` of a buffer,
which cannot wrap for an `int`; its two blocks are always large enough, and what they held when
they were obtained does not show (`decodeStream_scratchSafe`).
-/

namespace Libb64

open BitString Rfc4648 Lines

variable {T : Target}

/-- The call threw before anything was stored, or every call's text fits the block asked for. -/
def EncodeStreamResult.ScratchSafe (r : EncodeStreamResult T) : Prop :=
  r.thrown = true ∧ r.codeStores = [] ∨
    ∃ size, r.codeSize = some size ∧ ∀ stored ∈ r.codeStores, stored.length ≤ size.toNat

/-- The length fits, the length and the constant do not, both blocks are granted, and the first
buffer's text is longer than what is left of the sum. -/
def Encoder.Overruns (e : Encoder T) (calls : List (ReallocCall T)) (istreamIn : List Byte) :
    Prop :=
  e.fullLength + 1 < 2 ^ T.sizeBits ∧ 2 ^ T.sizeBits ≤ e.fullLength + 16 ∧
    e.Granted calls (BitVec.ofNat T.sizeBits (e.fullLength + 16)) ∧
    e.fullLength + 16 - 2 ^ T.sizeBits <
      blockLength e.state (min e.buffersize.toNat istreamIn.length)

/-! ## What the calls store -/

theorem length_encoderEncode (simd : Base64EncodeBulkSimd) (codeIn : List Byte)
    (s : Base64EncodeState T) :
    (encoderEncode simd codeIn s).codeOut.length = blockLength s codeIn.length := by
  unfold encoderEncode
  split
  · next h => rw [h, blockLength_zero, List.length_nil]
  · exact length_encodeBlock simd s codeIn

theorem encoderEncode_charsPerLine (simd : Base64EncodeBulkSimd) (codeIn : List Byte)
    (s : Base64EncodeState T) :
    (encoderEncode simd codeIn s).state.charsPerLine = s.charsPerLine := by
  unfold encoderEncode
  split
  · rfl
  · exact base64EncodeBlock_charsPerLine simd codeIn s

theorem head_encodeStreamLoop (simd : Base64EncodeBulkSimd) (N : Nat) (istreamIn : List Byte)
    (s : Base64EncodeState T) :
    ∃ first stores, (encodeStreamLoop simd N istreamIn s).2.1 = first :: stores ∧
      first.length = blockLength s (min N istreamIn.length) ∧
      (istreamIn.length < N → stores = []) := by
  have hlen := length_encoderEncode simd (istreamRead istreamIn N).delivered s
  have hmin : (istreamRead istreamIn N).delivered.length = min N istreamIn.length :=
    List.length_take
  rw [hmin] at hlen
  rw [encodeStreamLoop]
  dsimp only
  split
  · next h =>
    refine ⟨_, _, rfl, hlen, fun hlt => ?_⟩
    have hgood := h.1
    simp only [istreamRead, decide_eq_true_eq] at hgood
    omega
  · exact ⟨_, [], rfl, hlen, fun _ => rfl⟩

/-- **No store of the loop is longer** than the encoding of a full buffer. -/
theorem encodeStreamLoop_stores_le (simd : Base64EncodeBulkSimd) {N : Nat} (hN : 0 < N)
    (istreamIn : List Byte) (s : Base64EncodeState T) :
    ∀ stored ∈ (encodeStreamLoop simd N istreamIn s).2.1,
      stored.length ≤ encodedLength s.charsPerLine.toNat N := by
  induction hn : istreamIn.length using Nat.strongRecOn generalizing istreamIn s with
  | _ n ih =>
    have hdelivered : (istreamRead istreamIn N).delivered.length ≤ N :=
      List.length_take_le N istreamIn
    have hfirst := blockLength_le s hdelivered
    rw [← length_encoderEncode simd] at hfirst
    rw [encodeStreamLoop]
    dsimp only
    split
    · next h =>
      have hlt := hn ▸ istreamRead_remaining_lt hN h
      have hrest := ih _ hlt _ (encoderEncode simd (istreamRead istreamIn N).delivered s).state rfl
      rw [encoderEncode_charsPerLine] at hrest
      intro stored hstored
      rcases List.mem_cons.mp hstored with rfl | hstored
      · exact hfirst
      · exact hrest stored hstored
    · intro stored hstored
      rw [List.mem_singleton.mp hstored]
      exact hfirst

/-- The closing call writes at most three characters, each with a line break, and the last
newline. -/
theorem blockendLength_le (s : Base64EncodeState T) : blockendLength s ≤
    3 + if s.charsPerLine.toNat = 0 then 0 else 2 / s.charsPerLine.toNat + 2 := by
  have hbreaks := breaks_le s.charsPerLine.toNat s.stepcount.toNat (closingLength s.step)
  have hclosing : closingLength s.step ≤ 3 := by cases s.step <;> decide
  have hsub : closingLength s.step - 1 ≤ 2 := by omega
  have hdiv := Nat.div_le_div_right (c := s.charsPerLine.toNat) hsub
  unfold blockendLength
  dsimp only
  by_cases hc : s.charsPerLine.toNat = 0
  · rw [if_pos hc] at hbreaks ⊢
    rw [if_pos hc]
    omega
  · rw [if_neg hc] at hbreaks ⊢
    rw [if_neg hc]
    omega

/-! ## The sum that wraps -/

/-- Where the sum wraps, `size_t` has 32 bits and lines have one or two characters; the buffer is
large, and what is left of the sum is nothing or enough for the closing call. -/
theorem wrapped_sum (hT : T.sizeBits = 32 ∨ T.sizeBits = 64) (e : Encoder T)
    (hfit : e.fullLength + 1 < 2 ^ T.sizeBits) (hwrap : 2 ^ T.sizeBits ≤ e.fullLength + 16) :
    2 ^ 28 ≤ e.buffersize.toNat ∧ (e.fullLength + 16 = 2 ^ T.sizeBits ∨
      e.state.charsPerLine.toNat = 1 ∧ 2 ^ T.sizeBits + 8 ≤ e.fullLength + 16 ∨
      e.state.charsPerLine.toNat = 2 ∧ 2 ^ T.sizeBits + 6 ≤ e.fullLength + 16) := by
  obtain ⟨-, hlt⟩ := toNat_pos_of_toInt e.buffersize_pos
  obtain ⟨-, hbound⟩ := e.fullLength_bounds
  have hpow : 2 ^ T.sizeBits = 2 ^ 32 := by
    rcases hT with hT | hT <;> rw [hT] at hwrap ⊢
    omega
  rw [hpow] at hfit hwrap ⊢
  unfold Encoder.fullLength encodedLength at *
  generalize e.buffersize.toNat = N at *
  generalize e.state.charsPerLine.toNat = c at *
  rcases (by omega : c = 0 ∨ c = 1 ∨ c = 2 ∨ 3 ≤ c) with rfl | rfl | rfl | hc
  · rw [if_pos rfl] at hwrap
    omega
  · rw [if_neg (by omega)] at hfit hwrap ⊢
    omega
  · rw [if_neg (by omega)] at hfit hwrap ⊢
    omega
  · have hdiv := Nat.div_le_div_left (a := 4 * ((N + 2) / 3) - 1) hc (by omega)
    rw [if_neg (by omega)] at hwrap
    omega

/-! ## The stream function -/

theorem scratchSafe_of_granted_iff (simd : Base64EncodeBulkSimd) {e : Encoder T}
    {calls : List (ReallocCall T)} (hcap : e.cap ≠ 0) (h : e.Granted calls (e.cap + 16))
    (istreamIn : List Byte) :
    (e.encodeStream simd calls istreamIn).ScratchSafe ↔
      (∀ stored ∈ (encodeStreamLoop simd e.buffersize.toNat istreamIn e.state).2.1,
        stored.length ≤ (e.cap + 16).toNat) ∧
      blockendLength (encodeStreamLoop simd e.buffersize.toNat istreamIn e.state).1 ≤
        (e.cap + 16).toNat := by
  obtain ⟨calls', calls'', plaintext, code, hplain, hcode⟩ := h
  rw [encodeStream_of_granted simd hplain hcap hcode, EncodeStreamResult.ScratchSafe]
  simp only [Bool.false_eq_true, false_and, false_or, Option.some.injEq, exists_eq_left',
    List.mem_append, List.mem_singleton, or_imp, forall_and, forall_eq, length_encodeBlockend]

theorem granted_ne_zero {e : Encoder T} {calls : List (ReallocCall T)} {size : T.SizeT}
    (h : e.Granted calls size) : size ≠ 0 := by
  obtain ⟨calls', calls'', plaintext, code, -, hcode⟩ := h
  rintro rfl
  have hnull := e.alloc.size_zero calls' { ptr := none, size := 0, life := .short } rfl
  have hreply := congrArg Prod.snd hcode
  rw [B64Allocator.allocScratch, hnull] at hreply
  cases hreply

/-- Where the sum wraps to something, the first buffer decides: a whole buffer is far too long for
what is left, and after a shorter one only the closing call follows. -/
theorem stores_le_wrapped_iff (hT : T.sizeBits = 32 ∨ T.sizeBits = 64)
    (simd : Base64EncodeBulkSimd) (e : Encoder T) (istreamIn : List Byte)
    (hfit : e.fullLength + 1 < 2 ^ T.sizeBits) (hwrap : 2 ^ T.sizeBits < e.fullLength + 16) :
    ((∀ stored ∈ (encodeStreamLoop simd e.buffersize.toNat istreamIn e.state).2.1,
        stored.length ≤ e.fullLength + 16 - 2 ^ T.sizeBits) ∧
      blockendLength (encodeStreamLoop simd e.buffersize.toNat istreamIn e.state).1 ≤
        e.fullLength + 16 - 2 ^ T.sizeBits) ↔
      blockLength e.state (min e.buffersize.toNat istreamIn.length) ≤
        e.fullLength + 16 - 2 ^ T.sizeBits := by
  obtain ⟨hpos, -⟩ := toNat_pos_of_toInt e.buffersize_pos
  obtain ⟨hlarge, hleft⟩ := wrapped_sum hT e hfit (Nat.le_of_lt hwrap)
  obtain ⟨first, stores, hloop, hfirst, hshort⟩ :=
    head_encodeStreamLoop simd e.buffersize.toNat istreamIn e.state
  rw [hloop, ← hfirst]
  constructor
  · rintro ⟨hall, -⟩
    exact hall first List.mem_cons_self
  intro hle
  have hone : istreamIn.length < e.buffersize.toNat := by
    by_contra hno
    rw [Nat.min_eq_left (Nat.le_of_not_lt hno), blockLength] at hfirst
    omega
  refine ⟨?_, ?_⟩
  · rw [hshort hone]
    intro stored hstored
    rwa [List.mem_singleton.mp hstored]
  · have hend := blockendLength_le (encodeStreamLoop simd e.buffersize.toNat istreamIn e.state).1
    rw [encodeStreamLoop_charsPerLine simd hpos] at hend
    rcases hleft with hleft | ⟨hc, hleft⟩ | ⟨hc, hleft⟩
    · omega
    · rw [hc, if_neg (by omega)] at hend
      omega
    · rw [hc, if_neg (by omega)] at hend
      omega

/-- **The code block is large enough exactly where nothing overruns it.** -/
theorem encodeStream_scratchSafe_iff (T : Target) (hT : T.sizeBits = 32 ∨ T.sizeBits = 64)
    (simd : Base64EncodeBulkSimd) (e : Encoder T) (calls : List (ReallocCall T))
    (istreamIn : List Byte) :
    (e.encodeStream simd calls istreamIn).ScratchSafe ↔ ¬e.Overruns calls istreamIn := by
  have hw : 32 ≤ T.sizeBits := by omega
  have hcap := e.toNat_cap hw
  obtain ⟨hlo, -⟩ := e.fullLength_bounds
  obtain ⟨hpos, -⟩ := toNat_pos_of_toInt e.buffersize_pos
  have hzero : e.cap = 0 ↔ e.cap.toNat = 0 := toNat_eq_zero_iff.symm
  have h16 : (16 : T.SizeT).toNat = 16 := toNat_ofNat_of_lt (by decide)
  have hsum : e.fullLength + 1 < 2 ^ T.sizeBits →
      e.cap + 16 = BitVec.ofNat T.sizeBits (e.fullLength + 16) := by
    intro hfit
    apply BitVec.eq_of_toNat_eq
    rw [BitVec.toNat_add, hcap, if_pos hfit, h16, BitVec.toNat_ofNat]
  by_cases hgranted : e.cap ≠ 0 ∧ e.Granted calls (e.cap + 16)
  swap
  · obtain ⟨hthrown, hstores, -, -⟩ := encodeStream_of_not_granted simd e calls istreamIn hgranted
    refine iff_of_true (.inl ⟨hthrown, hstores⟩) ?_
    rintro ⟨hfit, -, hblocks, -⟩
    rw [if_pos hfit] at hcap
    exact hgranted ⟨by rw [ne_eq, hzero]; omega, by rwa [hsum hfit]⟩
  obtain ⟨hne, hblocks⟩ := hgranted
  have hfit : e.fullLength + 1 < 2 ^ T.sizeBits := by
    by_contra hno
    rw [if_neg hno] at hcap
    exact hne (hzero.mpr hcap)
  rw [scratchSafe_of_granted_iff simd hne hblocks, hsum hfit, BitVec.toNat_ofNat]
  rw [hsum hfit] at hblocks
  by_cases hwrap : 2 ^ T.sizeBits ≤ e.fullLength + 16
  · have hmod : (e.fullLength + 16) % 2 ^ T.sizeBits = e.fullLength + 16 - 2 ^ T.sizeBits := by
      obtain ⟨k, hpow, hbig⟩ := sizeBits_pow (T := T)
      rw [Nat.mod_eq_sub_mod hwrap, Nat.mod_eq_of_lt (by omega)]
    have hleft : 2 ^ T.sizeBits < e.fullLength + 16 := by
      refine Nat.lt_of_le_of_ne hwrap fun heq => granted_ne_zero hblocks ?_
      apply BitVec.eq_of_toNat_eq
      rw [BitVec.toNat_ofNat, hmod, ← heq]
      simp
    rw [hmod, stores_le_wrapped_iff hT simd e istreamIn hfit hleft, ← Nat.not_lt]
    exact not_congr ⟨fun h => ⟨hfit, hwrap, hblocks, h⟩, fun h => h.2.2.2⟩
  · rw [Nat.mod_eq_of_lt (by omega)]
    refine iff_of_true ⟨fun stored hstored => ?_, ?_⟩ fun h => hwrap h.2.1
    · have hstored := encodeStreamLoop_stores_le simd hpos istreamIn e.state stored hstored
      exact Nat.le_trans hstored (Nat.le_add_right _ 16)
    · have hend := blockendLength_le
        (encodeStreamLoop simd e.buffersize.toNat istreamIn e.state).1
      have hdiv := Nat.div_le_self 2
        (encodeStreamLoop simd e.buffersize.toNat istreamIn e.state).1.charsPerLine.toNat
      split at hend <;> omega

/-- The default buffer size with lines of 76 characters is safe on a 32-bit target. -/
theorem encodeStream_scratchSafe_iff_default :
    ((EncoderBuilder.build (T := i386)
      ⟨65536, 76, defaultCppAllocator fun calls _ => some (calls.length + 1)⟩).encodeStream
        encodeSimdNone [] ("foobar".toList.map charCode)).ScratchSafe :=
  (encodeStream_scratchSafe_iff i386 (.inl rfl) encodeSimdNone _ [] _).mpr
    fun h => absurd h.2.1 (by decide +kernel)

/-- **A block too small**: with a 32-bit `size_t`, a buffer size of 1610612733 and lines of one
character, the sum wraps to 8, and a stream of six bytes stores 15. -/
theorem encodeStream_not_scratchSafe :
    ¬((EncoderBuilder.build (T := i386)
      ⟨1610612733, 1, defaultCppAllocator fun calls _ => some (calls.length + 1)⟩).encodeStream
        encodeSimdNone [] ("foobar".toList.map charCode)).ScratchSafe := by
  generalize hr : (EncoderBuilder.build (T := i386)
    ⟨1610612733, 1, defaultCppAllocator fun calls _ => some (calls.length + 1)⟩).encodeStream
      encodeSimdNone [] ("foobar".toList.map charCode) = r
  have hrun : r.thrown = false ∧ r.codeSize = some 8 ∧
      r.codeStores.map List.length = [15, 1] := by
    rw [← hr]
    decide +kernel
  obtain ⟨hthrown, hsize, hstores⟩ := hrun
  have hlong : 15 ∈ r.codeStores.map List.length := by
    rw [hstores]
    exact List.mem_cons_self
  obtain ⟨stored, hmem, hlen⟩ := List.mem_map.mp hlong
  rintro (⟨hthrew, -⟩ | ⟨size, heq, hall⟩)
  · rw [hthrown] at hthrew
    cases hthrew
  · rw [hsize, Option.some.injEq] at heq
    have hle := hall stored hmem
    rw [hlen, ← heq] at hle
    revert hle
    decide

/-! ## The blocks of the decoder -/

/-- The call threw before anything was stored, or every store is inside the plaintext block. -/
def DecodeStreamResult.ScratchSafe (r : DecodeStreamResult T) : Prop :=
  r.thrown = true ∧ r.plaintextStores = [] ∨
    ∃ size, r.plaintextSize = some size ∧ ∀ j ∈ r.plaintextStores, j < size.toNat

theorem BlockSpec.stores_below {q : List Bool} (hq : Carriable q) {code : List Byte}
    {buf : OutBuf Byte} {r : Base64DecodeResult} (h : BlockSpec q code 0 buf r) {M : Nat}
    (hM : code.length / 4 * 3 + 3 ≤ M) (hbuf : ∀ j ∈ buf.stores, j < M) :
    ∀ j ∈ r.plaintextOut.stores, j < M := by
  intro j hj
  rcases h.decoded.stores j hj with hj | ⟨-, -, hchars⟩
  · exact hbuf j hj
  · unfold Carriable at hq
    omega

theorem decoderDecode_stores (T : Target) (simd : Base64DecodeBulkSimd) {q : List Bool}
    (hq : Carriable q) {codeIn : List Byte} {buf : OutBuf Byte} {M : Nat}
    (hM : codeIn.length / 4 * 3 + 3 ≤ M) (hbuf : ∀ j ∈ buf.stores, j < M) :
    ∀ j ∈ (decoderDecode T simd codeIn buf (carried q)).plaintextOut.stores, j < M := by
  unfold decoderDecode
  split
  · exact hbuf
  · exact (base64DecodeBlock_spec T simd hq codeIn 0 buf).stores_below hq hM hbuf

/-- **No store of the loop is beyond** the most that a full buffer can need, though every buffer
is decoded into the same block and each call may open with a partial byte. -/
theorem decodeStreamLoop_stores (T : Target) (simd : Base64DecodeBulkSimd) {N : Nat} (hN : 0 < N)
    {q : List Bool} (hq : Carriable q) (istreamIn : List Byte) {buf : OutBuf Byte}
    (hbuf : ∀ j ∈ buf.stores, j < N / 4 * 3 + 3) :
    ∀ j ∈ (decodeStreamLoop T simd N istreamIn buf (carried q)).1.stores, j < N / 4 * 3 + 3 := by
  induction hn : istreamIn.length using Nat.strongRecOn generalizing istreamIn buf q with
  | _ n ih =>
    have hdelivered : (istreamRead istreamIn N).delivered.length ≤ N :=
      List.length_take_le N istreamIn
    have hM : (istreamRead istreamIn N).delivered.length / 4 * 3 + 3 ≤ N / 4 * 3 + 3 := by
      omega
    have hstores := decoderDecode_stores T simd hq hM hbuf
    obtain ⟨hstate, -⟩ := decoderDecode_spec T simd hq (istreamRead istreamIn N).delivered buf
    rw [decodeStreamLoop]
    dsimp only
    split
    · next h =>
      have hlt := hn ▸ istreamRead_remaining_lt hN h
      rw [hstate]
      exact ih _ hlt (hq.rest _) _ hstores rfl
    · exact hstores

/-- **Neither block of the decoder is overrun**, by any stream, and what the plaintext block held
before does not show. -/
theorem decodeStream_scratchSafe (T : Target) (hw : 32 ≤ T.sizeBits) (simd : Base64DecodeBulkSimd)
    (d : Decoder T) (calls : List (ReallocCall T)) (contents contents' : Nat → Byte)
    (istreamIn : List Byte) :
    let r := d.decodeStream simd calls contents istreamIn
    r.ScratchSafe ∧
      (∀ coming, (istreamRead coming d.buffersize.toNat).delivered.length ≤
        (T.ofInt d.buffersize).toNat) ∧
      r.ostreamOut = (d.decodeStream simd calls contents' istreamIn).ostreamOut := by
  obtain ⟨hpos, -⟩ := toNat_pos_of_toInt d.buffersize_pos
  have hN := toNat_ofInt hw d.buffersize_pos
  refine ⟨?_, fun coming => hN.symm ▸ List.length_take_le _ coming, ?_⟩
  · have hfresh : ∀ j ∈ (OutBuf.fresh contents).stores, j < d.buffersize.toNat / 4 * 3 + 3 := by
      simp
    have hloop := decodeStreamLoop_stores T simd hpos (q := []) (.inl rfl) istreamIn hfresh
    rw [carried_nil] at hloop
    unfold Decoder.decodeStream
    dsimp only
    split
    · exact .inl ⟨rfl, rfl⟩
    · exact .inl ⟨rfl, rfl⟩
    · split
      · exact .inl ⟨rfl, rfl⟩
      · exact .inl ⟨rfl, rfl⟩
      · refine .inr ⟨_, rfl, ?_⟩
        rw [toNat_base64DecodeMaxlength, hN]
        exact hloop
  · by_cases hgranted : d.Granted calls
    · rw [(decodeStream_of_granted simd hgranted contents istreamIn).2.2,
        (decodeStream_of_granted simd hgranted contents' istreamIn).2.2]
    · rw [(decodeStream_of_not_granted simd d calls contents istreamIn hgranted).2.2,
        (decodeStream_of_not_granted simd d calls contents' istreamIn hgranted).2.2]

/-- Buffers of three characters on a 32-bit target: each of them may store to three places. -/
theorem decodeStream_scratchSafe_three :
    let d := DecoderBuilder.build (T := i386)
      ⟨3, defaultCppAllocator fun calls _ => some (calls.length + 1)⟩
    let r := d.decodeStream decodeSimdNone [] (fun _ => 0) ("Zm9vYmFy".toList.map charCode)
    r.ScratchSafe ∧
      (∀ coming, (istreamRead coming d.buffersize.toNat).delivered.length ≤
        (i386.ofInt d.buffersize).toNat) ∧
      r.ostreamOut = (d.decodeStream decodeSimdNone [] (fun _ => 255)
        ("Zm9vYmFy".toList.map charCode)).ostreamOut :=
  decodeStream_scratchSafe i386 (Nat.le_refl 32) decodeSimdNone _ [] _ _ _

end Libb64
