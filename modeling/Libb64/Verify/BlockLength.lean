import Libb64.Lib.OutBuf
import Libb64.Verify.EncodeLength

/-!
# How much a call writes from any state

The number of bytes a block call or the closing call writes depends on the label, the counts and
the number of bytes read, not on the bits that `result` holds. It holds at every state, also at one
with a `result` that no call leaves behind. A block call never writes more than
`base64_encode_length` says of a fresh state (`blockLength_le`).
-/

namespace Libb64

open BitString Rfc4648 Lines

variable {T : Target}

/-- The number of bits that are read and not yet written at a label. -/
def pendingBits : Base64EncodeStep → Nat
  | .stepA => 0
  | .stepB => 2
  | .stepC => 4

/-- The number of bytes that a block call writes for `n` bytes. -/
def blockLength (s : Base64EncodeState T) (n : Nat) : Nat :=
  let m := (pendingBits s.step + 8 * n) / 6
  m + breaks s.charsPerLine.toNat s.stepcount.toNat m

/-- The number of characters that pending bits still owe. -/
def closingLength : Base64EncodeStep → Nat
  | .stepA => 0
  | .stepB => 3
  | .stepC => 2

/-- The number of bytes that the closing call writes. -/
def blockendLength (s : Base64EncodeState T) : Nat :=
  let m := closingLength s.step
  m + breaks s.charsPerLine.toNat s.stepcount.toNat m + if s.charsPerLine.toNat = 0 then 0 else 1

/-! ## `result` does not count -/

namespace SameShape

variable {s t : Base64EncodeState T}

theorem encodeFragment (h : SameShape s t) (f : Byte) :
    SameShape (encodeFragment s f).1 (encodeFragment t f).1 ∧
      (encodeFragment s f).2.length = (encodeFragment t f).2.length := by
  obtain ⟨h1, out1⟩ := h.checkBreak
  have ht := h.step
  cases hs : s.step <;> rw [hs] at ht
  case stepA =>
    simp only [Libb64.encodeFragment, hs, ← ht, encodeStepA, out1, List.length_append,
      List.length_singleton, and_true]
    exact ⟨rfl, h1.stepcount, h1.charsPerLine⟩
  case stepB =>
    simp only [Libb64.encodeFragment, hs, ← ht, encodeStepB, out1, List.length_append,
      List.length_singleton, and_true]
    exact ⟨rfl, h1.stepcount, h1.charsPerLine⟩
  case stepC =>
    obtain ⟨h2, out2⟩ := h1.checkBreak
    simp only [Libb64.encodeFragment, hs, ← ht, encodeStepC, out1, out2, List.length_append,
      List.length_singleton, and_true]
    exact ⟨rfl, h2.stepcount, h2.charsPerLine⟩

theorem run (h : SameShape s t) (xs : List Byte) :
    ((slowEncoder T).run s xs).2.length = ((slowEncoder T).run t xs).2.length := by
  induction xs generalizing s t with
  | nil => rfl
  | cons x xs ih =>
    obtain ⟨hshape, hlen⟩ := h.encodeFragment x
    rw [Transducer.run_cons, Transducer.run_cons, List.length_append, List.length_append]
    exact congrArg₂ (· + ·) hlen (ih hshape)

theorem blockend (h : SameShape s t) :
    (base64EncodeBlockend s).codeOut.length = (base64EncodeBlockend t).codeOut.length := by
  obtain ⟨h1, out1⟩ := h.checkBreak
  obtain ⟨h2, out2⟩ := h1.checkBreak
  obtain ⟨h3, out3⟩ := h2.checkBreak
  have ht := h.step
  cases hs : s.step <;> rw [hs] at ht
  case stepA =>
    simp only [base64EncodeBlockend, hs, ← ht, h.charsPerLine]
  case stepB =>
    simp only [base64EncodeBlockend, hs, ← ht, out1, out2, out3, h3.charsPerLine]
    split <;> simp
  case stepC =>
    simp only [base64EncodeBlockend, hs, ← ht, out1, out2, h2.charsPerLine]
    split <;> simp

end SameShape

theorem exists_pending (s : Base64EncodeState T) :
    ∃ t q, SameShape s t ∧ Pending t q ∧ q.length = pendingBits s.step := by
  refine ⟨{ s with result := held (List.replicate (pendingBits s.step) false) },
    List.replicate (pendingBits s.step) false, ⟨rfl, rfl, rfl⟩, ?_, List.length_replicate⟩
  unfold Pending
  dsimp only
  cases s.step <;> simp [pendingBits]

/-! ## The lengths -/

theorem length_slowEncoder (s : Base64EncodeState T) (xs : List Byte) :
    ((slowEncoder T).run s xs).2.length = blockLength s xs.length := by
  obtain ⟨t, q, hshape, hpend, hq⟩ := exists_pending s
  have hline : OnLine t s.charsPerLine.toNat s.stepcount.toNat :=
    ⟨by rw [hshape.charsPerLine], .inr (by rw [hshape.stepcount])⟩
  obtain ⟨-, -, hout⟩ := slowEncoder_run hpend hline xs
  rw [hshape.run, hout, length_breaker_run, List.length_map, length_groups, List.length_append,
    length_ofDigits, hq]
  rfl

/-- **A block call** writes `blockLength` bytes. -/
theorem length_encodeBlock (simd : Base64EncodeBulkSimd) (s : Base64EncodeState T)
    (src : List Byte) :
    (base64EncodeBlock simd src s).codeOut.length = blockLength s src.length := by
  obtain ⟨-, hcode, -⟩ := base64EncodeBlock_spec simd (Same.refl s) src
  rw [hcode]
  exact length_slowEncoder s src

/-- **The closing call** writes `blockendLength` bytes. -/
theorem length_encodeBlockend (s : Base64EncodeState T) :
    (base64EncodeBlockend s).codeOut.length = blockendLength s := by
  obtain ⟨t, q, hshape, hpend, hq⟩ := exists_pending s
  have hline : OnLine t s.charsPerLine.toNat s.stepcount.toNat :=
    ⟨by rw [hshape.charsPerLine], .inr (by rw [hshape.stepcount])⟩
  have hclosing : (closing q).length = closingLength s.step := by
    unfold closing
    cases hs : s.step <;> rw [hs] at hq
    case stepA => simp [List.length_eq_zero_iff.mp hq, closingLength]
    case stepB => simp [List.ne_nil_of_length_pos (show 0 < q.length by rw [hq]; decide), hq,
      closingLength, pendingBits]
    case stepC => simp [List.ne_nil_of_length_pos (show 0 < q.length by rw [hq]; decide), hq,
      closingLength, pendingBits]
  rw [hshape.blockend, base64EncodeBlockend_spec hpend hline, List.length_append,
    length_breaker_run, hclosing, blockendLength, lineEnd]
  split <;> simp

@[simp] theorem blockLength_zero (s : Base64EncodeState T) : blockLength s 0 = 0 := by
  have hzero : (pendingBits s.step + 8 * 0) / 6 = 0 := by
    cases s.step <;> decide
  rw [blockLength, hzero, breaks_nil]

theorem breaks_le (c n m : Nat) : breaks c n m ≤ if c = 0 then 0 else (m - 1) / c + 1 := by
  unfold breaks
  split
  · exact Nat.le_refl 0
  · next hc =>
    have hpos : 0 < c := Nat.pos_of_ne_zero hc
    rw [← Nat.add_div_right _ hpos]
    exact Nat.div_le_div_right (by omega)

/-- **A fresh state's length bounds a block call from any state.** -/
theorem blockLength_le (s : Base64EncodeState T) {n N : Nat} (hn : n ≤ N) :
    blockLength s n ≤ encodedLength s.charsPerLine.toNat N := by
  have hpend : pendingBits s.step ≤ 4 := by cases s.step <;> decide
  have hm : (pendingBits s.step + 8 * n) / 6 ≤ 4 * ((N + 2) / 3) := by omega
  unfold blockLength encodedLength
  dsimp only
  generalize (pendingBits s.step + 8 * n) / 6 = m at hm
  have hbreaks := breaks_le s.charsPerLine.toNat s.stepcount.toNat m
  have hdiv := Nat.div_le_div_right (c := s.charsPerLine.toNat) (Nat.sub_le_sub_right hm 1)
  by_cases hc : s.charsPerLine.toNat = 0
  · rw [if_pos hc] at hbreaks ⊢
    omega
  · rw [if_neg hc] at hbreaks ⊢
    omega

/-- **`base64_encode_length` bounds a block call from any state** that calls and assignments to
`chars_per_line` reach: unless the helper's 0 is the overflow sentinel, a call with at most as many
bytes stores only below the count it returns, and the count is at most what the helper said. -/
theorem base64EncodeBlock_within_length (T : Target) (ops : List (EncodeOp T))
    (simd : Base64EncodeBulkSimd) (N : T.SizeT) (src : List Byte) (contents : Nat → Byte)
    (hsrc : src.length ≤ N.toNat)
    (hfits : (base64EncodeLength N
      ((encodeOps T).run (base64InitEncodestate T) ops).1).value = 0 → N = 0) :
    let s := ((encodeOps T).run (base64InitEncodestate T) ops).1
    let r := base64EncodeBlock simd src s
    (∀ j ∈ ((OutBuf.fresh contents).storeList 0 r.codeOut).stores, j < r.returned) ∧
      r.returned ≤ (base64EncodeLength N s).value.toNat := by
  revert hfits
  generalize ((encodeOps T).run (base64InitEncodestate T) ops).1 = s
  intro hfits
  obtain ⟨-, hval⟩ := base64EncodeLength_computes N s
  have hlen := (base64EncodeBlock_returned simd src s).symm
  refine ⟨fun j hj => ?_, ?_⟩
  · rw [OutBuf.mem_stores_storeList, OutBuf.stores_fresh, hlen] at hj
    simpa using hj
  · rw [← hlen, length_encodeBlock]
    refine Nat.le_trans (blockLength_le s hsrc) ?_
    split at hval
    · exact Nat.le_of_eq hval.symm
    · next hover =>
      -- the sentinel: only an empty text may ask for it, and that one always fits
      have hzero : N.toNat = 0 := toNat_eq_zero_iff.mpr (hfits (toNat_eq_zero_iff.mp hval))
      have hpow : 2 ^ 16 ≤ 2 ^ T.sizeBits := Nat.pow_le_pow_right (by omega) T.sizeBits_ge
      have hsmall : encodedLength s.charsPerLine.toNat N.toNat ≤ 1 := by
        rw [hzero, encodedLength]
        split <;> simp
      omega

/-- At `step_C` with lines of one character, a byte brings two characters and two newlines. -/
theorem base64EncodeBlock_within_length_one :
    let s := ((encodeOps i386).run (base64InitEncodestate i386)
      [.block encodeSimdNone [0x66, 0x6f], .setCharsPerLine 1]).1
    let r := base64EncodeBlock encodeSimdNone [0x6f] s
    (∀ j ∈ ((OutBuf.fresh fun _ => 0).storeList 0 r.codeOut).stores, j < r.returned) ∧
      r.returned ≤ (base64EncodeLength 1 s).value.toNat :=
  base64EncodeBlock_within_length i386 [.block encodeSimdNone [0x66, 0x6f], .setCharsPerLine 1]
    encodeSimdNone 1 [0x6f] (fun _ => 0) (by decide) (by decide)

end Libb64
