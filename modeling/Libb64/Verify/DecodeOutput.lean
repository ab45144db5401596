import Libb64.Verify.DecodeSpec

/-!
# What the decoder writes

A text goes through a fresh state in any number of calls, each to the scalar core or to the
dispatching function and each with its own output buffer. What comes out, and the state left
behind, depend only on the values of the alphabet characters (`decodeCalls_run`).
-/

namespace Libb64

open BitString Rfc4648

variable {T : Target}

/-- A decode call: the kernel it dispatches to, or none for the scalar core, the characters it
passes, and what its output buffer held before. -/
structure DecodeCall where
  simd : Option Base64DecodeBulkSimd
  codeIn : List Byte
  contents : Nat → Byte

/-- The call itself. -/
def DecodeCall.block (T : Target) (call : DecodeCall) (s : Base64DecodeState) :
    Base64DecodeResult :=
  match call.simd with
  | none => base64DecodeBlockScalar T call.codeIn 0 (.fresh call.contents) s
  | some simd => base64DecodeBlock T simd call.codeIn 0 (.fresh call.contents) s

/-- Decode calls one after another; a call yields the bytes below the count it returns. -/
def decodeCalls (T : Target) : Transducer Base64DecodeState DecodeCall Byte where
  step s call :=
    let r := call.block T s
    (r.state, r.plaintextOut.slice 0 r.returned)

/-- The text that a list of calls passes. -/
def codeOf (calls : List DecodeCall) : List Byte := calls.flatMap DecodeCall.codeIn

/-! ## Runs -/

section Calls

variable {q : List Bool}

theorem DecodeCall.block_spec (T : Target) (hq : Carriable q) (call : DecodeCall) :
    BlockSpec q call.codeIn 0 (.fresh call.contents) (call.block T (carried q)) := by
  unfold DecodeCall.block
  split
  · exact base64DecodeBlockScalar_spec T hq ..
  · exact base64DecodeBlock_spec T _ hq ..

theorem BlockSpec.output {code : List Byte} {o : Nat} {buf : OutBuf Byte}
    {r : Base64DecodeResult} (h : BlockSpec q code o buf r) :
    r.returned = (q ++ bits code).length / 8 ∧
      r.plaintextOut.slice o r.returned = groups 8 (q ++ bits code) := by
  have hpos := h.decoded.position
  have hret : r.returned = (q ++ bits code).length / 8 := by omega
  exact ⟨hret, by rw [hret, h.decoded.bytes]⟩

theorem decodeCalls_simulation (T : Target) :
    Transducer.Simulation (decodeCalls T) (regroup 6 8) (fun s q => s = carried q ∧ Carriable q)
      fun call => sextets call.codeIn where
  state := by
    rintro s q ⟨rfl, hq⟩ call
    have hlt : q.length < 8 := hq.length_lt
    rw [regroup_run (by omega) hlt]
    exact ⟨(call.block_spec T hq).state, hq.rest call.codeIn⟩
  output := by
    rintro s q ⟨rfl, hq⟩ call
    have hlt : q.length < 8 := hq.length_lt
    rw [regroup_run (by omega) hlt]
    exact (call.block_spec T hq).output.2

theorem sextets_codeOf (calls : List DecodeCall) :
    calls.flatMap (fun call => sextets call.codeIn) = sextets (codeOf calls) := by
  induction calls with
  | nil => rfl
  | cons call calls ih =>
    have hcode : codeOf (call :: calls) = call.codeIn ++ codeOf calls := rfl
    rw [List.flatMap_cons, ih, hcode, sextets_append]

/-- **Any calls from a fresh state**: complete bytes come out, the bits left over stay behind. -/
theorem decodeCalls_run (T : Target) (calls : List DecodeCall) :
    (decodeCalls T).run base64InitDecodestate calls =
      (carried (rest 8 (bits (codeOf calls))), decode (codeOf calls)) := by
  have hsim := (decodeCalls_simulation T).run ⟨carried_nil.symm, .inl rfl⟩ calls
  rw [sextets_codeOf, regroup_run (by omega) (by simp)] at hsim
  exact Prod.ext hsim.1.1 hsim.2

theorem exists_carried (T : Target) (calls : List DecodeCall) :
    ∃ q, Carriable q ∧ ((decodeCalls T).run base64InitDecodestate calls).1 = carried q := by
  rw [decodeCalls_run]
  exact ⟨_, Carriable.rest (q := []) (.inl rfl) (codeOf calls), rfl⟩

end Calls

/-! ## Output and state -/

/-- **Decoding in general**: with `k` alphabet characters in the text, the output is the first
`6 * k / 8` bytes of the bits they spell; the state's label is `k % 4`, and its byte holds the
bits left over in its high positions and zeros below. -/
theorem decodeCalls_semantics (T : Target) (calls : List DecodeCall) :
    let r := (decodeCalls T).run base64InitDecodestate calls
    let vs := sextets (codeOf calls)
    ∃ leftover, ofDigits vs = ofDigits r.2 ++ leftover ∧
      r.2.length = 6 * vs.length / 8 ∧ leftover.length = 6 * vs.length % 8 ∧
      r.1.step = stepAt (vs.length % 4) ∧
      ofDigit r.1.plainchar = leftover ++ List.replicate (8 - 6 * vs.length % 8) false := by
  have hlen := length_rest (w := 8) (bits (codeOf calls))
  rw [length_bits] at hlen
  rw [decodeCalls_run]
  refine ⟨rest 8 (bits (codeOf calls)), ?_, ?_, hlen, ?_, ?_⟩
  · exact (ofDigits_groups_append_rest (by omega) _).symm
  · simp only [decode, length_groups, length_ofDigits]
  · simp only [carried, hlen]
    congr 1
    omega
  · rw [← hlen]
    exact ofDigit_digit_of_length_le (Nat.le_of_lt (length_rest_lt (by omega) _))

/-- Two calls on the same text from the same state report the same and leave the same state. -/
theorem BlockSpec.agree {q : List Bool} {code : List Byte} {o : Nat} {buf buf' : OutBuf Byte}
    {r r' : Base64DecodeResult} (h : BlockSpec q code o buf r) (h' : BlockSpec q code o buf' r') :
    r.returned = r'.returned ∧
      r.plaintextOut.slice o r.returned = r'.plaintextOut.slice o r'.returned ∧
      r.state = r'.state := by
  obtain ⟨hret, hout⟩ := h.output
  obtain ⟨hret', hout'⟩ := h'.output
  exact ⟨hret.trans hret'.symm, hout.trans hout'.symm, h.state.trans h'.state.symm⟩

/-- **The dispatching function refines the scalar core** at every state that decode calls reach,
whatever the output buffers held and whatever the kernel takes. -/
theorem base64DecodeBlock_refines_scalar (T : Target) (calls : List DecodeCall)
    (simd : Base64DecodeBulkSimd) (codeIn : List Byte) (plaintextOut : Nat)
    (buf buf' : OutBuf Byte) :
    let s := ((decodeCalls T).run base64InitDecodestate calls).1
    let r := base64DecodeBlock T simd codeIn plaintextOut buf s
    let r' := base64DecodeBlockScalar T codeIn plaintextOut buf' s
    r.returned = r'.returned ∧
      r.plaintextOut.slice plaintextOut r.returned =
        r'.plaintextOut.slice plaintextOut r'.returned ∧
      r.state = r'.state := by
  obtain ⟨q, hq, hs⟩ := exists_carried T calls
  rw [hs]
  have hblock := base64DecodeBlock_spec T simd hq codeIn plaintextOut buf
  have hscalar := base64DecodeBlockScalar_spec T hq codeIn plaintextOut buf'
  exact hblock.agree hscalar

/-! ## What the buffers held before -/

/-- **Old contents never show**: at every state that decode calls reach, either block function
reports the same bytes and leaves the same state whatever its buffer held before; and a list of
calls gives the same bytes and states call by call with any other buffers. -/
theorem decode_ignores_contents (T : Target) (calls : List (DecodeCall × (Nat → Byte))) :
    let old := calls.map Prod.fst
    let new := calls.map fun c => { c.1 with contents := c.2 }
    let s := ((decodeCalls T).run base64InitDecodestate old).1
    (∀ (codeIn : List Byte) (plaintextOut : Nat) (buf buf' : OutBuf Byte),
      let r := base64DecodeBlockScalar T codeIn plaintextOut buf s
      let r' := base64DecodeBlockScalar T codeIn plaintextOut buf' s
      r.returned = r'.returned ∧
        r.plaintextOut.slice plaintextOut r.returned =
          r'.plaintextOut.slice plaintextOut r'.returned ∧
        r.state = r'.state) ∧
    (∀ (simd : Base64DecodeBulkSimd) (codeIn : List Byte) (plaintextOut : Nat)
        (buf buf' : OutBuf Byte),
      let r := base64DecodeBlock T simd codeIn plaintextOut buf s
      let r' := base64DecodeBlock T simd codeIn plaintextOut buf' s
      r.returned = r'.returned ∧
        r.plaintextOut.slice plaintextOut r.returned =
          r'.plaintextOut.slice plaintextOut r'.returned ∧
        r.state = r'.state) ∧
    (decodeCalls T).trace base64InitDecodestate old =
      (decodeCalls T).trace base64InitDecodestate new := by
  obtain ⟨q, hq, hs⟩ := exists_carried T (calls.map Prod.fst)
  dsimp only
  rw [hs]
  refine ⟨?_, ?_, ?_⟩
  · intro codeIn plaintextOut buf buf'
    exact (base64DecodeBlockScalar_spec T hq codeIn plaintextOut buf).agree
      (base64DecodeBlockScalar_spec T hq codeIn plaintextOut buf')
  · intro simd codeIn plaintextOut buf buf'
    exact (base64DecodeBlock_spec T simd hq codeIn plaintextOut buf).agree
      (base64DecodeBlock_spec T simd hq codeIn plaintextOut buf')
  · refine (decodeCalls T).trace_map_congr (P := fun s => ∃ q, Carriable q ∧ s = carried q)
      ?_ ?_ ⟨[], .inl rfl, carried_nil.symm⟩ calls
    · rintro s call ⟨q, hq, rfl⟩
      exact ⟨_, hq.rest call.codeIn, (call.block_spec T hq).state⟩
    · rintro s call ⟨q, hq, rfl⟩
      have hold := call.1.block_spec T hq
      have hnew := ({ call.1 with contents := call.2 } : DecodeCall).block_spec T hq
      obtain ⟨-, hout, hstate⟩ := hold.agree hnew
      exact Prod.ext hstate hout

/-! ## Stores -/

theorem toNat_base64DecodeMaxlength (n : T.SizeT) :
    (base64DecodeMaxlength n).toNat = n.toNat / 4 * 3 + 3 := by
  obtain ⟨k, hpow, hbig⟩ := sizeBits_pow (T := T)
  have hlt := n.isLt
  have h3 : (3 : T.SizeT).toNat = 3 := toNat_ofNat_of_lt (by decide)
  have h4 : (4 : T.SizeT).toNat = 4 := toNat_ofNat_of_lt (by decide)
  have hdiv : (n / 4).toNat = n.toNat / 4 := by rw [BitVec.toNat_udiv, h4]
  have hmul : (n / 4 * 3).toNat = n.toNat / 4 * 3 := by
    rw [BitVec.toNat_mul_of_lt (by rw [hdiv, h3]; omega), hdiv, h3]
  rw [base64DecodeMaxlength, BitVec.toNat_add_of_lt (by omega), hmul, h3]

/-- Every store of a call into a fresh buffer is at most one byte beyond what the call reports, and
inside the buffer that `base64_decode_maxlength` asks for. -/
theorem BlockSpec.stores_fresh {q : List Bool} (hq : Carriable q) {code : List Byte}
    {contents : Nat → Byte} {r : Base64DecodeResult}
    (h : BlockSpec q code 0 (.fresh contents) r) :
    ∀ j ∈ r.plaintextOut.stores, j ≤ r.returned ∧ j < code.length / 4 * 3 + 3 := by
  intro j hj
  obtain ⟨hret, -⟩ := h.output
  rcases h.decoded.stores j hj with hj | ⟨-, hbits, hchars⟩
  · simp at hj
  · rw [hret, List.length_append, length_bits]
    unfold Carriable at hq
    omega

/-- **Every store of a call is inside the buffer** that `base64_decode_maxlength` asks for, and at
most one byte beyond what the call reports; a call without input stores nothing. -/
theorem decode_stores_lt_maxlength (T : Target) (calls : List DecodeCall) (call : DecodeCall)
    (hlen : call.codeIn.length < 2 ^ T.sizeBits) :
    let r := call.block T ((decodeCalls T).run base64InitDecodestate calls).1
    (∀ j ∈ r.plaintextOut.stores, j ≤ r.returned ∧
        j < (base64DecodeMaxlength (BitVec.ofNat T.sizeBits call.codeIn.length)).toNat) ∧
      (call.codeIn = [] → r.plaintextOut.stores = []) := by
  obtain ⟨q, hq, hs⟩ := exists_carried T calls
  have hspec := call.block_spec T hq
  rw [hs, toNat_base64DecodeMaxlength, BitVec.toNat_ofNat, Nat.mod_eq_of_lt hlen]
  refine ⟨hspec.stores_fresh hq, fun hnil => ?_⟩
  rw [hspec.nothing hnil]
  rfl

/-- A call with three characters after one left over stores to four places at most. -/
theorem decode_stores_lt_maxlength_three :
    let r := DecodeCall.block i386 ⟨some decodeSimdNone, "m9v".toList.map charCode, fun _ => 0⟩
      ((decodeCalls i386).run base64InitDecodestate
        [⟨none, "Z".toList.map charCode, fun _ => 0⟩]).1
    (∀ j ∈ r.plaintextOut.stores, j ≤ r.returned ∧
        j < (base64DecodeMaxlength (BitVec.ofNat i386.sizeBits 3)).toNat) ∧
      ("m9v".toList.map charCode = [] → r.plaintextOut.stores = []) :=
  decode_stores_lt_maxlength i386 [⟨none, "Z".toList.map charCode, fun _ => 0⟩]
    ⟨some decodeSimdNone, "m9v".toList.map charCode, fun _ => 0⟩ (by decide)

end Libb64
