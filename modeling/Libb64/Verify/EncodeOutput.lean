import Libb64.Verify.EncodeRefine

/-!
# What the encoder writes

A text goes through a fresh state in any number of block calls and one `base64_encode_blockend`.
Whatever the cuts and whatever the kernels take, the output is the encoding of the whole text laid
out in lines (`encodeSession_eq`).
-/

namespace Libb64

open BitString Rfc4648 Lines

variable {T : Target}

/-- A block call: the kernel it dispatches to and the bytes it passes. -/
structure EncodeCall where
  simd : Base64EncodeBulkSimd
  plaintextIn : List Byte

/-- `base64_encode_block` called again and again, for as many characters as it returns. -/
def encodeCalls (T : Target) : Transducer (Base64EncodeState T) EncodeCall Byte where
  step s call :=
    let r := base64EncodeBlock call.simd call.plaintextIn s
    (r.state, r.codeOut.take r.returned)

/-- The state for lines of `c` characters. -/
def freshEncodestate (c : T.SizeT) : Base64EncodeState T :=
  { base64InitEncodestate T with charsPerLine := c }

/-- The text that a list of calls passes. -/
def plaintextOf (calls : List EncodeCall) : List Byte :=
  calls.flatMap EncodeCall.plaintextIn

/-- Block calls from a state and the `base64_encode_blockend` that closes them. -/
def encodeFrom (s : Base64EncodeState T) (calls : List EncodeCall) : List Byte :=
  let (s', out) := (encodeCalls T).run s calls
  let r := base64EncodeBlockend s'
  out ++ r.codeOut.take r.returned

/-- A whole text through a fresh state. -/
def encodeSession (c : T.SizeT) (calls : List EncodeCall) : List Byte :=
  encodeFrom (freshEncodestate c) calls

/-! ## Block calls -/

theorem encodeCalls_step (s : Base64EncodeState T) (call : EncodeCall) :
    (encodeCalls T).step s call =
      ((base64EncodeBlock call.simd call.plaintextIn s).state,
        (base64EncodeBlock call.simd call.plaintextIn s).codeOut) :=
  congrArg _ (base64EncodeBlock_take call.simd call.plaintextIn s)

theorem encodeFrom_run (s : Base64EncodeState T) (calls : List EncodeCall) :
    encodeFrom s calls = ((encodeCalls T).run s calls).2 ++
      (base64EncodeBlockend ((encodeCalls T).run s calls).1).codeOut :=
  congrArg _ (base64EncodeBlockend_take _)

theorem Pending.of_same {s t : Base64EncodeState T} {q : List Bool} (h : Same s t)
    (hp : Pending t q) : Pending s q := by
  by_cases hs : s.step = .stepA
  · have ht : t.step = .stepA := h.step ▸ hs
    simpa [Pending, hs, ht] using hp
  · rwa [h.eq_of_ne hs]

theorem OnLine.of_same {s t : Base64EncodeState T} {c n : Nat} (h : Same s t)
    (hl : OnLine t c n) : OnLine s c n :=
  ⟨h.charsPerLine ▸ hl.width, h.stepcount ▸ hl.count⟩

theorem encodeCalls_simulation (T : Target) :
    Transducer.Simulation (encodeCalls T) (slowEncoder T) Same EncodeCall.plaintextIn where
  state h call := (base64EncodeBlock_spec call.simd h call.plaintextIn).1
  output h call := (base64EncodeBlock_take ..).trans
    (base64EncodeBlock_spec call.simd h call.plaintextIn).2.1

theorem base64EncodeBlock_charsPerLine (simd : Base64EncodeBulkSimd) (src : List Byte)
    (s : Base64EncodeState T) :
    (base64EncodeBlock simd src s).state.charsPerLine = s.charsPerLine :=
  (base64EncodeBlock_spec simd (Same.refl s) src).1.charsPerLine.trans
    (slowEncoder_charsPerLine s src)

theorem encodeCalls_charsPerLine (s : Base64EncodeState T) (calls : List EncodeCall) :
    ((encodeCalls T).run s calls).1.charsPerLine = s.charsPerLine :=
  (encodeCalls T).run_invariant (P := fun t => t.charsPerLine = s.charsPerLine)
    (fun t call ht => (base64EncodeBlock_charsPerLine call.simd call.plaintextIn t).trans ht)
    rfl calls

/-- **Block calls from any state**: cuts and kernels do not show. -/
theorem encodeCalls_run {s : Base64EncodeState T} {c n : Nat} {q : List Bool} (hp : Pending s q)
    (h : OnLine s c n) (calls : List EncodeCall) :
    let bits := q ++ ofDigits (plaintextOf calls)
    let r := (breaker newline c).run n ((groups 6 bits).map symbol)
    Pending ((encodeCalls T).run s calls).1 (rest 6 bits) ∧
      OnLine ((encodeCalls T).run s calls).1 c r.1 ∧ ((encodeCalls T).run s calls).2 = r.2 := by
  obtain ⟨hsame, hout⟩ := (encodeCalls_simulation T).run (Same.refl s) calls
  obtain ⟨hp', hl', hout'⟩ := slowEncoder_run hp h (plaintextOf calls)
  exact ⟨hp'.of_same hsame, hl'.of_same hsame, hout.trans hout'⟩

/-- What block calls and the closing call write from any state. -/
theorem encodeFrom_eq {s : Base64EncodeState T} {c n : Nat} {q : List Bool} (hp : Pending s q)
    (h : OnLine s c n) (calls : List EncodeCall) :
    let bits := q ++ ofDigits (plaintextOf calls)
    encodeFrom s calls = ((breaker newline c).run n
      ((groups 6 bits).map symbol ++ closing (rest 6 bits))).2 ++ lineEnd c := by
  obtain ⟨hp', hl', hout⟩ := encodeCalls_run hp h calls
  simp only [encodeFrom_run, base64EncodeBlockend_spec hp' hl', hout, Transducer.run_append,
    List.append_assoc]

/-! ## Whole texts -/

theorem pending_fresh (c : T.SizeT) : Pending (freshEncodestate c) [] := rfl

theorem onLine_fresh (c : T.SizeT) : OnLine (freshEncodestate c) c.toNat 0 :=
  ⟨rfl, .inr (BitVec.toNat_zero)⟩

/-- **The encoder writes the encoding of the whole text**, laid out in lines. -/
theorem encodeSession_eq (c : T.SizeT) (calls : List EncodeCall) :
    encodeSession c calls = layout newline c.toNat (encode (plaintextOf calls)) := by
  have hrun := encodeFrom_eq (pending_fresh c) (onLine_fresh c) calls
  simp only [List.nil_append, ← encode_eq] at hrun
  rw [encodeSession, hrun, layout, lineEnd]
  split
  · next hc => simp [breaker_run_of_fits 0 _ (.inl hc)]
  · next hc =>
    split
    · next hnil => simp [hnil]
    · next hne => exact breaker_layout (Nat.pos_of_ne_zero hc) hne

theorem encode_eq_nil {x : List Byte} : encode x = [] ↔ x = [] := by
  rw [← List.length_eq_zero_iff, length_encode, ← List.length_eq_zero_iff]
  omega

/-- **Conformance**: the encoding itself when lines are not wrapped, a single newline for an empty
text, and otherwise the encoding cut into lines, each ended by a newline. -/
theorem encodeSession_conforms (c : T.SizeT) (calls : List EncodeCall) :
    if c = 0 then
      encodeSession c calls = encode (plaintextOf calls)
    else if plaintextOf calls = [] then
      encodeSession c calls = [newline]
    else
      ∃ lines, IsCut c.toNat (encode (plaintextOf calls)) lines ∧
        encodeSession c calls = lines.flatMap (· ++ [newline]) := by
  have hzero : c.toNat = 0 ↔ c = 0 := toNat_eq_zero_iff
  rw [encodeSession_eq, layout]
  simp only [hzero, encode_eq_nil]
  split
  · rfl
  · next hc =>
    have hpos : 0 < c.toNat := Nat.pos_of_ne_zero (mt hzero.mp hc)
    split
    · rfl
    · exact ⟨_, cut_isCut hpos _, rfl⟩

end Libb64
