import Libb64.Balloc
import Libb64.Verify.Blocks
import Libb64.Verify.EncodeLength
import Libb64.Verify.RoundTrip

/-!
# The allocating helpers

Each helper asks once for as many bytes as it may store to, and either hands the block over with
what was asked for or leaves nothing behind (`AllocSpec`). The request for an encoding does not
wrap: the length helper's 0 tells a text that does not fit from the empty one only together with
the text's length.
-/

namespace Libb64

open BitString Rfc4648 Lines

variable {T : Target}

/-- The callback grants a block of `size` bytes, which is a `size_t`. -/
def Grants (reallocFn : B64ReallocFn T) (calls : List (ReallocCall T)) (size : Nat) : Prop :=
  size < 2 ^ T.sizeBits ∧
    (reallocFn calls { ptr := none, size := BitVec.ofNat _ size, life := .long }).isSome

/-- The bytes that a caller finds behind `out`. -/
def Base64AllocResult.bytes (r : Base64AllocResult T) : List Byte :=
  r.buf.slice 0 (r.outlen.getD 0).toNat

/-- What a call owes that needs `size` bytes to bring out `bytes`. -/
structure AllocSpec (reallocFn : B64ReallocFn T) (calls : List (ReallocCall T)) (size : Nat)
    (bytes : List Byte) (r : Base64AllocResult T) : Prop where
  requests : r.calls = calls ∨ ∃ call, r.calls = calls ++ [call] ∧ call.ptr = none ∧
    call.life = .long ∧ call.size.toNat = size
  failed_iff : r.returned ≠ 0 ↔ ¬Grants reallocFn calls size
  failed : r.returned ≠ 0 →
    r.out = some none ∧ r.outlen = some 0 ∧ Outstanding reallocFn .long calls r.calls []
  succeeded : r.returned = 0 → ∃ p n, r.out = some (some p) ∧ r.outlen = some n ∧
    n.toNat = bytes.length ∧ r.bytes = bytes ∧ Outstanding reallocFn .long calls r.calls [p]
  stores : ∀ j ∈ r.buf.stores, j < size

theorem failure_ne_zero : (-1 : CInt) ≠ 0 := by decide

/-! ## The request -/

section Request

variable {reallocFn : B64ReallocFn T} {calls : List (ReallocCall T)} {size : Nat}
  {bytes : List Byte}

/-- A call that gives up without a request, as its size would wrap. -/
theorem AllocSpec.of_wrapped (hsize : 2 ^ T.sizeBits ≤ size) (contents : Nat → Byte) :
    AllocSpec reallocFn calls size bytes
      { returned := -1, out := some none, outlen := some 0, calls, buf := .fresh contents } where
  requests := .inl rfl
  failed_iff := iff_of_true failure_ne_zero fun h => Nat.not_lt_of_le hsize h.1
  failed _ := ⟨rfl, rfl, Outstanding.refl reallocFn .long calls⟩
  succeeded h := absurd h failure_ne_zero
  stores j hj := by simp at hj

/-- A call whose request is answered with `NULL`. -/
theorem AllocSpec.of_null {asked : T.SizeT} (hasked : asked.toNat = size)
    (hnull : reallocFn calls { ptr := none, size := asked, life := .long } = none)
    (contents : Nat → Byte) :
    AllocSpec reallocFn calls size bytes
      { returned := -1, out := some none, outlen := some 0,
        calls := calls ++ [{ ptr := none, size := asked, life := .long }],
        buf := .fresh contents } := by
  have hofNat : BitVec.ofNat _ size = asked := by
    rw [← hasked, BitVec.ofNat_toNat, BitVec.setWidth_eq]
  have hout := (Outstanding.refl reallocFn .long calls).refused hnull
  refine ⟨.inr ⟨_, rfl, rfl, rfl, hasked⟩, iff_of_true failure_ne_zero ?_,
    fun _ => ⟨rfl, rfl, hout⟩, fun h => absurd h failure_ne_zero, fun j hj => by simp at hj⟩
  rintro ⟨-, hsome⟩
  rw [hofNat, hnull] at hsome
  cases hsome

/-- A call whose request is answered with a block, once the block holds what it should. -/
theorem AllocSpec.of_block {asked n : T.SizeT} {p : Nat} {buf : OutBuf Byte}
    (hasked : asked.toNat = size)
    (hblock : reallocFn calls { ptr := none, size := asked, life := .long } = some p)
    (hn : n.toNat = bytes.length) (hbytes : buf.slice 0 bytes.length = bytes)
    (hstores : ∀ j ∈ buf.stores, j < size) :
    AllocSpec reallocFn calls size bytes
      { returned := 0, out := some (some p), outlen := some n,
        calls := calls ++ [{ ptr := none, size := asked, life := .long }], buf } := by
  have hofNat : BitVec.ofNat _ size = asked := by
    rw [← hasked, BitVec.ofNat_toNat, BitVec.setWidth_eq]
  have hout := (Outstanding.refl reallocFn .long calls).granted hblock
  refine ⟨.inr ⟨_, rfl, rfl, rfl, hasked⟩, iff_of_false (fun h => h rfl) ?_, fun h => absurd rfl h,
    fun _ => ⟨p, n, rfl, rfl, hn, ?_, hout⟩, hstores⟩
  · rw [not_not, Grants, hofNat, hblock]
    exact ⟨hasked ▸ asked.isLt, rfl⟩
  · simp only [Base64AllocResult.bytes, Option.getD_some, hn, hbytes]

end Request

/-! ## Encoding -/

theorem zero_notMem_encode (x : List Byte) : (0 : Byte) ∉ encode x := by
  rw [encode_eq]
  exact notMem_charactersOf (by decide) (by decide) (ofDigits x)

theorem toNat_encodeLength_unwrapped {x : List Byte} (hx : x.length < 2 ^ T.sizeBits) :
    (base64EncodeLength (BitVec.ofNat _ x.length) (base64InitEncodestate T)).value.toNat =
      if (encode x).length + 1 < 2 ^ T.sizeBits then (encode x).length else 0 := by
  have hval :=
    (base64EncodeLength_computes (BitVec.ofNat _ x.length) (base64InitEncodestate T)).value
  have hzero : (base64InitEncodestate T).charsPerLine.toNat = 0 := BitVec.toNat_zero
  have hlen : encodedLength 0 x.length = (encode x).length := by
    rw [length_encode]
    rfl
  rw [BitVec.toNat_ofNat, Nat.mod_eq_of_lt hx, hzero, hlen] at hval
  exact hval

theorem encode_unwrapped (simd : Base64EncodeBulkSimd) (x : List Byte) :
    let r := base64EncodeBlock simd x (base64InitEncodestate T)
    r.codeOut ++ (base64EncodeBlockend r.state).codeOut = encode x := by
  have hsession := encodeSession_eq (T := T) 0 [⟨simd, x⟩]
  have hplain : plaintextOf [⟨simd, x⟩] = x := by simp [plaintextOf]
  have hzero : (0 : T.SizeT).toNat = 0 := BitVec.toNat_zero
  rw [hplain, hzero, layout, if_pos rfl, encodeSession, encodeFrom_run,
    Transducer.run_singleton, encodeCalls_step] at hsession
  exact hsession

/-- What the stores of a successful call leave in the block: the encoding and the NUL. -/
theorem encodeAlloc_memory (simd : Base64EncodeBulkSimd) {x : List Byte}
    (hfits : (encode x).length + 1 < 2 ^ T.sizeBits) (buf : OutBuf Byte) :
    let r := base64EncodeBlock simd x (base64InitEncodestate T)
    let e := base64EncodeBlockend r.state
    let n : T.SizeT := BitVec.ofNat _ r.returned
    let n' := n + BitVec.ofNat _ e.returned
    n'.toNat = (encode x).length ∧
      ((buf.storeList 0 r.codeOut).storeList n.toNat e.codeOut).store n'.toNat 0 =
        buf.storeList 0 (encode x ++ [0]) := by
  intro r e n n'
  have htext : r.codeOut ++ e.codeOut = encode x := encode_unwrapped simd x
  have hret : r.returned = r.codeOut.length :=
    base64EncodeBlock_returned simd x (base64InitEncodestate T)
  have hret' : e.returned = e.codeOut.length := rfl
  have hsum := congrArg List.length htext
  rw [List.length_append] at hsum
  have hn : n.toNat = r.codeOut.length := by
    rw [BitVec.toNat_ofNat, hret, Nat.mod_eq_of_lt (by omega)]
  have hn' : n'.toNat = (encode x).length := by
    have hadd : n' = BitVec.ofNat _ (encode x).length := by
      rw [← hsum, BitVec.ofNat_add, ← hret, ← hret']
    rw [hadd, BitVec.toNat_ofNat, Nat.mod_eq_of_lt (Nat.lt_of_succ_lt hfits)]
  refine ⟨hn', ?_⟩
  rw [hn, hn', OutBuf.storeList_append, ← htext, OutBuf.storeList_append, Nat.zero_add,
    Nat.zero_add]
  rfl

/-- **`base64_encode_alloc`** with its text and the NUL after it. -/
theorem base64EncodeAlloc_spec (realloc : CRealloc T) (simd : Base64EncodeBulkSimd)
    (alloc : Option (B64CAllocator T)) (calls : List (ReallocCall T)) (contents : Nat → Byte)
    {x : List Byte} (hx : x.length < 2 ^ T.sizeBits) (out : Option Nat) (outlen : T.SizeT) :
    let r := base64EncodeAlloc realloc simd alloc calls contents x (some out) (some outlen)
    AllocSpec (resolve realloc alloc) calls ((encode x).length + 1) (encode x) r ∧
      (r.returned = 0 → (r.buf.slice 0 ((encode x).length + 1)).idxOf 0 = (encode x).length) := by
  have hcap := toNat_encodeLength_unwrapped (T := T) hx
  have hlen := length_encode x
  have hxlen : (BitVec.ofNat T.sizeBits x.length).toNat = x.length := by
    rw [BitVec.toNat_ofNat, Nat.mod_eq_of_lt hx]
  have hempty : BitVec.ofNat T.sizeBits x.length ≠ 0 ↔ x.length ≠ 0 := by
    rw [ne_eq, ← toNat_eq_zero_iff, hxlen]
  have h1 : (1 : T.SizeT).toNat = 1 := toNat_ofNat_of_lt (by decide)
  unfold base64EncodeAlloc
  dsimp only
  rw [if_neg (by simp)]
  generalize (base64EncodeLength (BitVec.ofNat _ x.length) (base64InitEncodestate T)).value = cap
    at hcap
  by_cases hfits : (encode x).length + 1 < 2 ^ T.sizeBits
  swap
  · rw [if_neg hfits] at hcap
    have hzero : cap = 0 := toNat_eq_zero_iff.mp hcap
    have hpow : 2 ^ 16 ≤ 2 ^ T.sizeBits := Nat.pow_le_pow_right (by omega) T.sizeBits_ge
    rw [if_pos ⟨hzero, hempty.mpr (by omega)⟩]
    exact ⟨AllocSpec.of_wrapped (Nat.le_of_not_lt hfits) contents,
      fun h => absurd h failure_ne_zero⟩
  rw [if_pos hfits] at hcap
  have hasked : (cap + 1).toNat = (encode x).length + 1 := by
    rw [BitVec.toNat_add_of_lt (by omega), hcap, h1]
  have hgo : ¬(cap = 0 ∧ BitVec.ofNat T.sizeBits x.length ≠ 0) := by
    rw [hempty, ← toNat_eq_zero_iff, hcap]
    omega
  rw [if_neg hgo]
  split
  · next hnull =>
    exact ⟨AllocSpec.of_null hasked hnull contents, fun h => absurd h failure_ne_zero⟩
  · next p hblock =>
    obtain ⟨hn, hbuf⟩ := encodeAlloc_memory simd hfits (.fresh contents)
    have hlast := (OutBuf.fresh contents).slice_storeList 0 (encode x ++ [0])
    rw [List.length_append, List.length_singleton] at hlast
    rw [hbuf]
    refine ⟨AllocSpec.of_block hasked hblock hn ?_ ?_, fun _ => ?_⟩
    · exact OutBuf.slice_storeList_append _ 0 (encode x) [0]
    · intro j hj
      rw [OutBuf.mem_stores_storeList, OutBuf.stores_fresh] at hj
      simpa using hj
    · rw [hlast, List.idxOf_append_of_notMem (zero_notMem_encode x)]
      simp

/-! ## Decoding -/

/-- **`base64_decode_alloc`**, also for its speculative stores. -/
theorem base64DecodeAlloc_spec (realloc : CRealloc T) (simd : Base64DecodeBulkSimd)
    (alloc : Option (B64CAllocator T)) (calls : List (ReallocCall T)) (contents : Nat → Byte)
    {code : List Byte} (hcode : code.length < 2 ^ T.sizeBits) (out : Option Nat)
    (outlen : T.SizeT) :
    AllocSpec (resolve realloc alloc) calls (code.length / 4 * 3 + 3) (decode code)
      (base64DecodeAlloc realloc simd alloc calls contents code (some out) (some outlen)) := by
  have hspec := base64DecodeBlock_spec T simd (q := []) (.inl rfl) code 0 (.fresh contents)
  rw [carried_nil] at hspec
  obtain ⟨hret, hout⟩ := hspec.output
  have hasked := toNat_base64DecodeMaxlength (BitVec.ofNat T.sizeBits code.length)
  rw [BitVec.toNat_ofNat, Nat.mod_eq_of_lt hcode] at hasked
  unfold base64DecodeAlloc
  dsimp only
  rw [if_neg (by simp)]
  split
  · next hnull => exact AllocSpec.of_null hasked hnull contents
  · next p hblock =>
    have hdecode : groups 8 ([] ++ bits code) = decode code := rfl
    rw [hdecode] at hout
    have hlen := congrArg List.length hout
    rw [OutBuf.length_slice] at hlen
    have hle := length_sextets_le code
    have hfits : (base64DecodeBlock T simd code 0 (.fresh contents)
        base64InitDecodestate).returned < 2 ^ T.sizeBits := by
      rw [hret, List.nil_append, length_bits]
      omega
    refine AllocSpec.of_block hasked hblock ?_ ?_ fun j hj => ?_
    · rw [BitVec.toNat_ofNat, Nat.mod_eq_of_lt hfits, hlen]
    · rw [← hlen, hout]
    · exact (hspec.stores_fresh (.inl rfl) j hj).2

/-! ## Both ways -/

/-- **The allocating helpers**: an encoding asks for its length and one more byte and is ended by
the first NUL; a decoded text asks for what `base64_decode_maxlength` says, which always fits; and
decoding an encoding brings the text back. -/
theorem base64Alloc_oneShot (T : Target) (realloc : CRealloc T)
    (encodeSimd : Base64EncodeBulkSimd) (decodeSimd : Base64DecodeBulkSimd)
    (alloc alloc' : Option (B64CAllocator T)) (calls calls' : List (ReallocCall T))
    (contents contents' : Nat → Byte) (plaintext code : List Byte)
    (hplain : plaintext.length < 2 ^ T.sizeBits) (hcode : code.length < 2 ^ T.sizeBits)
    (out out' : Option Nat) (outlen outlen' : T.SizeT) :
    let encoded := encode plaintext
    let e := base64EncodeAlloc realloc encodeSimd alloc calls contents plaintext (some out)
      (some outlen)
    let d code := base64DecodeAlloc realloc decodeSimd alloc' calls' contents' code (some out')
      (some outlen')
    (AllocSpec (resolve realloc alloc) calls (encoded.length + 1) encoded e ∧
        (e.returned = 0 → (e.buf.slice 0 (encoded.length + 1)).idxOf 0 = encoded.length)) ∧
      (AllocSpec (resolve realloc alloc') calls' (code.length / 4 * 3 + 3) (decode code) (d code) ∧
        code.length / 4 * 3 + 3 < 2 ^ T.sizeBits) ∧
      (e.returned = 0 → (d e.bytes).returned = 0 → (d e.bytes).bytes = plaintext) := by
  intro encoded e d
  have he := base64EncodeAlloc_spec realloc encodeSimd alloc calls contents hplain out outlen
  have hd := fun (code : List Byte) (hcode : code.length < 2 ^ T.sizeBits) =>
    base64DecodeAlloc_spec realloc decodeSimd alloc' calls' contents' hcode out' outlen'
  have hmax := (base64DecodeMaxlength (BitVec.ofNat T.sizeBits code.length)).isLt
  rw [toNat_base64DecodeMaxlength, BitVec.toNat_ofNat, Nat.mod_eq_of_lt hcode] at hmax
  refine ⟨he, ⟨hd code hcode, hmax⟩, fun hok hok' => ?_⟩
  obtain ⟨p, n, -, -, hn, hbytes, -⟩ := he.1.succeeded hok
  have hbytes : e.bytes = encode plaintext := hbytes
  rw [hbytes] at hok' ⊢
  have hfits : (encode plaintext).length < 2 ^ T.sizeBits := hn ▸ n.isLt
  obtain ⟨p', n', -, -, -, hbytes', -⟩ := (hd (encode plaintext) hfits).succeeded hok'
  exact hbytes'.trans (decode_encode plaintext)

/-- Three bytes through a callback of the caller's and back through the C library's. -/
theorem base64Alloc_oneShot_foo :
    let e := base64EncodeAlloc (T := i386) (fun _ _ _ => some 1) encodeSimdNone
      (some ⟨some fun calls _ => some (calls.length + 1)⟩) [] (fun _ => 7)
      ("foo".toList.map charCode) (some (some 5)) (some 99)
    let d code := base64DecodeAlloc (T := i386) (fun _ _ _ => some 1) decodeSimdNone none []
      (fun _ => 7) code (some none) (some 0)
    (d e.bytes).bytes = "foo".toList.map charCode :=
  (base64Alloc_oneShot i386 (fun _ _ _ => some 1) encodeSimdNone decodeSimdNone
    (some ⟨some fun calls _ => some (calls.length + 1)⟩) none [] [] (fun _ => 7) (fun _ => 7)
    ("foo".toList.map charCode) ("Zm9v".toList.map charCode) (by decide) (by decide)
    (some 5) none 99 0).2.2 (by decide +kernel) (by decide +kernel)

end Libb64
