import Libb64.Verify.EncodeOutput

/-!
# Line widths

A caller may assign `chars_per_line` between any two calls. However often the width changes, the
characters written are those of the encoding of the whole text, every newline stands where the
current line is full for the width of the call that writes it, and no character stands beyond that
width (`encodeCallsAt_lines`); the columns are those of `stepcount`, a `size_t`. At one width, a
text tells the bytes it encodes and the width, unless it fits on one line (`encodeSession_eq_iff`).
-/

namespace Libb64

open BitString Rfc4648 Lines

variable {T : Target}

/-- `base64_encode_block` called again and again, with a width assigned before each call. -/
def encodeCallsAt (T : Target) : Transducer (Base64EncodeState T) (T.SizeT × EncodeCall) Byte where
  step s call :=
    let r := base64EncodeBlock call.2.simd call.2.plaintextIn { s with charsPerLine := call.1 }
    (r.state, r.codeOut.take r.returned)

/-- The bytes `x` have been passed and `out` has been written for them, at any widths. -/
structure Underway (s : Base64EncodeState T) (x out : List Byte) : Prop where
  pending : Pending s (rest 6 (ofDigits x))
  stepcount : s.stepcount.toNat = column newline out % 2 ^ T.sizeBits
  symbols : out.filter (· ≠ newline) = (groups 6 (ofDigits x)).map symbol

theorem newline_notMem_symbols (bits : List Bool) : newline ∉ (groups 6 bits).map symbol :=
  fun h => notMem_charactersOf (by decide) (by decide) bits (List.mem_append_left _ h)

theorem newline_notMem_closing (bits : List Bool) : newline ∉ closing (rest 6 bits) :=
  fun h => notMem_charactersOf (by decide) (by decide) bits (List.mem_append_right _ h)

/-- Unwrapped text counts every character. -/
theorem base64EncodeBlock_stepcount (simd : Base64EncodeBulkSimd) (src : List Byte)
    {s : Base64EncodeState T} (h : s.charsPerLine = 0) :
    (base64EncodeBlock simd src s).state.stepcount =
      s.stepcount + BitVec.ofNat _ (base64EncodeBlock simd src s).codeOut.length := by
  obtain ⟨hsame, hcode, -⟩ := base64EncodeBlock_spec simd (Same.refl s) src
  rw [hsame.stepcount, hcode]
  exact slowEncoder_stepcount h src

/-! ## Calls at any widths -/

namespace Underway

variable {s : Base64EncodeState T} {x out : List Byte}

theorem init (T : Target) : Underway (base64InitEncodestate T) [] [] where
  pending := rfl
  stepcount := by simp [base64InitEncodestate]
  symbols := rfl

/-- **One block call** at a width of its own. -/
theorem block (h : Underway s x out) (c : T.SizeT) (call : EncodeCall) :
    let r := base64EncodeBlock call.simd call.plaintextIn { s with charsPerLine := c }
    Underway r.state (x ++ call.plaintextIn) (out ++ r.codeOut) ∧
      IsBroken newline (2 ^ T.sizeBits) c.toNat out r.codeOut := by
  have hp : Pending { s with charsPerLine := c } (rest 6 (ofDigits x)) := h.pending
  have hl : OnLine { s with charsPerLine := c } c.toNat s.stepcount.toNat := ⟨rfl, .inr rfl⟩
  obtain ⟨hp', hl', hout⟩ := encodeCalls_run hp hl [call]
  have hone : plaintextOf [call] = call.plaintextIn := by simp [plaintextOf]
  rw [hone] at hp' hl' hout
  rw [Transducer.run_singleton, encodeCalls_step] at hp' hl' hout
  have hn : s.stepcount.toNat % 2 ^ T.sizeBits = column newline out % 2 ^ T.sizeBits := by
    rw [h.stepcount, Nat.mod_mod]
  have hrun := breaker_isBroken c.isLt
    (newline_notMem_symbols (rest 6 (ofDigits x) ++ ofDigits call.plaintextIn)) hn
    (.inr s.stepcount.isLt)
  dsimp only at hrun
  rw [← hout] at hrun
  obtain ⟨hbroken, hcount, hlt⟩ := hrun
  refine ⟨⟨?_, ?_, ?_⟩, hbroken⟩
  · rwa [ofDigits_append, rest_append (by decide)]
  · refine Eq.trans ?_ hcount
    rcases hl'.count with hc | hc
    · -- without lines the count goes on, modulo the range of `size_t`
      have hwidth : c = 0 := toNat_eq_zero_iff.mp hc
      have hlen := congrArg List.length hout
      rw [breaker_run_of_fits _ _ (.inl hc)] at hlen ⊢
      dsimp only at hlen ⊢
      rw [← hlen]
      exact (congrArg BitVec.toNat (base64EncodeBlock_stepcount call.simd call.plaintextIn
        (s := { s with charsPerLine := c }) hwidth)).trans (by simp)
    · have hlt' : ((breaker newline c.toNat).run s.stepcount.toNat
          ((groups 6 (rest 6 (ofDigits x) ++ ofDigits call.plaintextIn)).map symbol)).1 <
          2 ^ T.sizeBits := hc ▸ BitVec.isLt _
      rw [Nat.mod_eq_of_lt hlt']
      exact hc
  · rw [List.filter_append, h.symbols, ofDigits_append, groups_append (by decide),
      List.map_append]
    refine congrArg _ ((congrArg _ hout).trans ?_)
    exact breaker_filter_ne (newline_notMem_symbols _) _

/-- **Any list of calls**, by one call after the other. -/
theorem run (h : Underway s x out) (calls : List (T.SizeT × EncodeCall)) :
    let r := (encodeCallsAt T).run s calls
    Underway r.1 (x ++ plaintextOf (calls.map Prod.snd)) (out ++ r.2) := by
  induction calls generalizing s x out with
  | nil => simpa [plaintextOf] using h
  | cons call calls ih =>
    have hrest := ih (h.block call.1 call.2).1
    simpa [Transducer.run_cons, plaintextOf, encodeCallsAt] using hrest

/-- **The closing call** at a width of its own. -/
theorem blockend (h : Underway s x out) (c : T.SizeT) :
    ∃ last, (base64EncodeBlockend { s with charsPerLine := c }).codeOut =
        last ++ lineEnd c.toNat ∧
      IsBroken newline (2 ^ T.sizeBits) c.toNat out last ∧
      (out ++ last).filter (· ≠ newline) = encode x := by
  have hp : Pending { s with charsPerLine := c } (rest 6 (ofDigits x)) := h.pending
  have hl : OnLine { s with charsPerLine := c } c.toNat s.stepcount.toNat := ⟨rfl, .inr rfl⟩
  have hn : s.stepcount.toNat % 2 ^ T.sizeBits = column newline out % 2 ^ T.sizeBits := by
    rw [h.stepcount, Nat.mod_mod]
  obtain ⟨hbroken, -⟩ := breaker_isBroken c.isLt (newline_notMem_closing (ofDigits x)) hn
    (.inr s.stepcount.isLt)
  refine ⟨_, base64EncodeBlockend_spec hp hl, hbroken, ?_⟩
  rw [List.filter_append, h.symbols, breaker_filter_ne (newline_notMem_closing _), encode_eq]

end Underway

/-- **Widths that change in mid-stream.** After any block calls at any widths, a further block call
and the closing call break the line where it is full for the width they are made at, and nowhere
else; and the closed text without its newlines is the encoding of all bytes. -/
theorem encodeCallsAt_lines (T : Target) (calls : List (T.SizeT × EncodeCall)) (c : T.SizeT)
    (call : EncodeCall) :
    let (s, out) := (encodeCallsAt T).run (base64InitEncodestate T) calls
    let s := { s with charsPerLine := c }
    IsBroken newline (2 ^ T.sizeBits) c.toNat out
        (base64EncodeBlock call.simd call.plaintextIn s).codeOut ∧
      ∃ last, (base64EncodeBlockend s).codeOut = last ++ lineEnd c.toNat ∧
        IsBroken newline (2 ^ T.sizeBits) c.toNat out last ∧
        (out ++ last).filter (· ≠ newline) = encode (plaintextOf (calls.map Prod.snd)) := by
  have h := (Underway.init T).run calls
  simp only [List.nil_append] at h
  exact ⟨(h.block c call).2, h.blockend c⟩

/-! ## One width -/

/-- **Which sessions write the same text**: those that pass the same bytes at the same width, or at
two widths that leave the text on one line. -/
theorem encodeSession_eq_iff (T T' : Target) (c : T.SizeT) (c' : T'.SizeT)
    (calls calls' : List EncodeCall) :
    encodeSession c calls = encodeSession c' calls' ↔
      plaintextOf calls = plaintextOf calls' ∧
        (c.toNat = c'.toNat ∨ 0 < c.toNat ∧ 0 < c'.toNat ∧
          (encode (plaintextOf calls)).length ≤ min c.toNat c'.toNat) := by
  have hnl : ∀ x, newline ∉ encode x := fun x =>
    encode_eq x ▸ notMem_charactersOf (by decide) (by decide) (ofDigits x)
  have hencode : encode (plaintextOf calls) = encode (plaintextOf calls') ↔
      plaintextOf calls = plaintextOf calls' :=
    ⟨fun h => by rw [← decode_encode (plaintextOf calls), h, decode_encode], congrArg encode⟩
  rw [encodeSession_eq, encodeSession_eq, layout_eq_iff (hnl _) (hnl _), hencode]

end Libb64
