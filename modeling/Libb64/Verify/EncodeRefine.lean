import Mathlib.Data.List.Forall2
import Libb64.Verify.EncodeSpec

/-!
# The fast encoding paths

The table loop and the bulk kernel may take any number of whole triples at `step_A`. They leave
`result` alone and add to `stepcount` in one go, so their states agree with those of the
per-character encoder up to a `result` that `step_A` overwrites (`Same`). Related states stay
related whatever is called next, also when the line width is changed in between
(`encodeOps_refines`).
-/

namespace Libb64

open BitString Rfc4648 Lines

variable {T : Target}

/-- The states agree up to `result`. -/
structure SameShape (s t : Base64EncodeState T) : Prop where
  step : s.step = t.step
  stepcount : s.stepcount = t.stepcount
  charsPerLine : s.charsPerLine = t.charsPerLine

/-- The states agree on everything the next call reads: `result` counts only off `step_A`. -/
structure Same (s t : Base64EncodeState T) : Prop where
  step : s.step = t.step
  stepcount : s.stepcount = t.stepcount
  charsPerLine : s.charsPerLine = t.charsPerLine
  result : s.step ≠ .stepA → s.result = t.result

/-- `base64_encode_block` through the per-character encoder only. -/
def slowEncodeBlock (plaintextIn : List Byte) (stateIn : Base64EncodeState T) :
    Base64EncodeResult T :=
  let (state, codeOut) := (slowEncoder T).run stateIn plaintextIn
  { state, codeOut, returned := codeOut.length }

/-! ## The relations -/

theorem SameShape.checkBreak {s t : Base64EncodeState T} (h : SameShape s t) :
    SameShape (checkBreak s).1 (checkBreak t).1 ∧ (checkBreak s).2 = (checkBreak t).2 := by
  have hs := checkBreak_step s
  have ht := checkBreak_step t
  have hc := checkBreak_charsPerLine s
  have hc' := checkBreak_charsPerLine t
  refine ⟨⟨by rw [hs, ht, h.step], ?_, by rw [hc, hc', h.charsPerLine]⟩, ?_⟩
  all_goals
    simp only [Libb64.checkBreak, h.charsPerLine, h.stepcount]
    split <;> simp [h.stepcount]

namespace Same

variable {s t u : Base64EncodeState T}

theorem refl (s : Base64EncodeState T) : Same s s := ⟨rfl, rfl, rfl, fun _ => rfl⟩

theorem symm (h : Same s t) : Same t s where
  step := h.step.symm
  stepcount := h.stepcount.symm
  charsPerLine := h.charsPerLine.symm
  result ht := (h.result (h.step ▸ ht)).symm

theorem trans (h : Same s t) (h' : Same t u) : Same s u where
  step := h.step.trans h'.step
  stepcount := h.stepcount.trans h'.stepcount
  charsPerLine := h.charsPerLine.trans h'.charsPerLine
  result hs := (h.result hs).trans (h'.result (h.step ▸ hs))

theorem eq_of_ne (h : Same s t) (hs : s.step ≠ .stepA) : s = t := by
  obtain ⟨hstep, hcount, hcpl, hresult⟩ := h
  cases s
  cases t
  simp_all

theorem shape (h : Same s t) : SameShape s t := ⟨h.step, h.stepcount, h.charsPerLine⟩

theorem encodeFragment (h : Same s t) (f : Byte) : encodeFragment s f = encodeFragment t f := by
  by_cases hs : s.step = .stepA
  · have ht : t.step = .stepA := h.step ▸ hs
    obtain ⟨hshape, hout⟩ := h.shape.checkBreak
    simp only [Libb64.encodeFragment, hs, ht, encodeStepA, hout, hshape.stepcount,
      hshape.charsPerLine]
  · rw [h.eq_of_ne hs]

theorem run (h : Same s t) (xs : List Byte) :
    Same ((slowEncoder T).run s xs).1 ((slowEncoder T).run t xs).1 ∧
      ((slowEncoder T).run s xs).2 = ((slowEncoder T).run t xs).2 := by
  cases xs with
  | nil => exact ⟨h, rfl⟩
  | cons x xs =>
    have hstep : (slowEncoder T).step s x = (slowEncoder T).step t x := h.encodeFragment x
    rw [Transducer.run_cons, Transducer.run_cons, hstep]
    exact ⟨refl _, rfl⟩

theorem blockend (h : Same s t) :
    Same (base64EncodeBlockend s).state (base64EncodeBlockend t).state ∧
      (base64EncodeBlockend s).codeOut = (base64EncodeBlockend t).codeOut := by
  by_cases hs : s.step = .stepA
  · have ht : t.step = .stepA := h.step ▸ hs
    simp only [base64EncodeBlockend, hs, ht, h.charsPerLine, and_true]
    exact h
  · rw [h.eq_of_ne hs]
    exact ⟨refl _, rfl⟩

end Same

/-! ## Whole triples -/

theorem encodeFragment_charsPerLine (s : Base64EncodeState T) (f : Byte) :
    (encodeFragment s f).1.charsPerLine = s.charsPerLine := by
  cases hs : s.step <;> simp [encodeFragment, hs, encodeStepA, encodeStepB, encodeStepC]

theorem slowEncoder_charsPerLine (s : Base64EncodeState T) (xs : List Byte) :
    ((slowEncoder T).run s xs).1.charsPerLine = s.charsPerLine :=
  (slowEncoder T).run_invariant (P := fun t => t.charsPerLine = s.charsPerLine)
    (fun t f ht => (encodeFragment_charsPerLine t f).trans ht) rfl xs

theorem encodeFragment_stepcount {s : Base64EncodeState T} (h : s.charsPerLine = 0) (f : Byte) :
    (encodeFragment s f).1.stepcount =
      s.stepcount + BitVec.ofNat _ (encodeFragment s f).2.length := by
  have hbreak : ∀ t : Base64EncodeState T, t.charsPerLine = 0 →
      checkBreak t = ({ t with stepcount := t.stepcount + 1 }, []) :=
    fun t ht => checkBreak_of_not_full fun hfull => hfull.1 ht
  cases hs : s.step
  case stepA => simp [encodeFragment, hs, encodeStepA, hbreak s h, h]
  case stepB => simp [encodeFragment, hs, encodeStepB, hbreak s h, h]
  case stepC =>
    have hbreak' := hbreak { s with stepcount := s.stepcount + 1, step := .stepC } h
    simp only [encodeFragment, hs, encodeStepC, hbreak s h, hbreak', List.nil_append,
      List.append_nil, List.length_append, List.length_singleton]
    rw [BitVec.add_assoc, BitVec.ofNat_add]
    rfl

theorem slowEncoder_stepcount {s : Base64EncodeState T} (h : s.charsPerLine = 0) (xs : List Byte) :
    ((slowEncoder T).run s xs).1.stepcount =
      s.stepcount + BitVec.ofNat _ ((slowEncoder T).run s xs).2.length := by
  induction xs generalizing s with
  | nil => simp
  | cons x xs ih =>
    have hcount := ih ((encodeFragment_charsPerLine s x).trans h)
    rw [Transducer.run_cons, List.length_append, BitVec.ofNat_add, ← BitVec.add_assoc]
    exact hcount.trans (congrArg (· + _) (encodeFragment_stepcount h x))

theorem step_of_pending_nil {s : Base64EncodeState T} (h : Pending s []) : s.step = .stepA := by
  cases hs : s.step <;> simp_all [Pending]

/-- From `step_A` and without line breaks, the per-character encoder turns whole triples into
their encoding. -/
theorem slowEncoder_triples {s : Base64EncodeState T} (hs : s.step = .stepA)
    (hc : s.charsPerLine = 0) {xs : List Byte} (hxs : 3 ∣ xs.length) :
    Same { s with stepcount := s.stepcount + BitVec.ofNat _ (encode xs).length }
        ((slowEncoder T).run s xs).1 ∧
      ((slowEncoder T).run s xs).2 = encode xs := by
  have hp : Pending s [] := by simp [Pending, hs]
  have hl : OnLine s 0 0 := ⟨by simp [hc], .inl rfl⟩
  have hrest : rest 6 (ofDigits xs) = [] := by
    rw [← List.length_eq_zero_iff, length_rest, length_ofDigits]
    omega
  obtain ⟨hpend, -, hout⟩ := slowEncoder_run hp hl xs
  rw [List.nil_append, hrest] at hpend
  rw [breaker_run_of_fits 0 _ (.inl rfl), List.nil_append] at hout
  have henc : ((slowEncoder T).run s xs).2 = encode xs := by
    rw [hout, encode_eq, hrest]
    simp [closing]
  refine ⟨⟨?_, ?_, ?_, ?_⟩, henc⟩
  · rw [step_of_pending_nil hpend]
    exact hs
  · rw [slowEncoder_stepcount hc, henc]
  · rw [slowEncoder_charsPerLine]
  · exact fun hne => absurd hs hne

theorem encodeTriples_spec : ∀ src : List Byte,
    ∃ front, src = front ++ (encodeTriples src).2 ∧ 3 ∣ front.length ∧
      (encodeTriples src).1 = encode front
  | [] => ⟨[], rfl, by simp, by simp [encodeTriples]⟩
  | [_] => ⟨[], rfl, by simp, by simp [encodeTriples]⟩
  | [_, _] => ⟨[], rfl, by simp, by simp [encodeTriples]⟩
  | src0 :: src1 :: src2 :: src => by
    obtain ⟨front, hsrc, hdvd, hout⟩ := encodeTriples_spec src
    refine ⟨[src0, src1, src2] ++ front, ?_, ?_, ?_⟩
    · simpa [encodeTriples] using hsrc
    · simp only [List.length_append, List.length_cons, List.length_nil]
      omega
    · rw [encode_append (by simp), ← encodeTriple_eq, ← hout]
      rfl

/-! ## The block functions -/

/-- The bulk path does what the per-character encoder does on the bytes it takes. -/
theorem encodeBulkPath_spec (s : Base64EncodeState T) (src : List Byte) :
    ∃ front, src = front ++ (encodeBulkPath s src).2.2 ∧
      Same (encodeBulkPath s src).1 ((slowEncoder T).run s front).1 ∧
      (encodeBulkPath s src).2.1 = ((slowEncoder T).run s front).2 := by
  by_cases h : s.step = .stepA ∧ s.charsPerLine = 0
  · obtain ⟨front, hsrc, hdvd, hout⟩ := encodeTriples_spec src
    obtain ⟨hsame, hrun⟩ := slowEncoder_triples h.1 h.2 hdvd
    refine ⟨front, ?_, ?_, ?_⟩ <;> simp only [encodeBulkPath, if_pos h, hout]
    · exact hsrc
    · exact hsame
    · exact hrun.symm
  · refine ⟨[], ?_, ?_, ?_⟩ <;> simp only [encodeBulkPath, if_neg h]
    · rfl
    · exact Same.refl s
    · rfl

/-- **The scalar core refines the per-character encoder.** -/
theorem encodeLoop_spec (s : Base64EncodeState T) (src : List Byte) :
    Same (encodeLoop s src).1 ((slowEncoder T).run s src).1 ∧
      (encodeLoop s src).2 = ((slowEncoder T).run s src).2 := by
  induction hn : src.length using Nat.strongRecOn generalizing s src with
  | _ n ih =>
    obtain ⟨front, hsrc, hsame, hout⟩ := encodeBulkPath_spec s src
    have hle := encodeBulkPath_length_le s src
    rw [encodeLoop]
    split
    · next state bulk hbulk =>
      rw [hbulk] at hsrc hsame hout
      rw [hsrc, List.append_nil]
      exact ⟨hsame, hout⟩
    · next state bulk fragment src' hbulk =>
      rw [hbulk] at hsrc hsame hout hle
      dsimp only at hsrc hsame hout hle
      have hfrag : encodeFragment state fragment =
          (slowEncoder T).step ((slowEncoder T).run s front).1 fragment :=
        hsame.encodeFragment fragment
      obtain ⟨ihs, iho⟩ := ih src'.length (by simp at hle; omega)
        (encodeFragment state fragment).1 src' rfl
      rw [hfrag] at ihs iho
      rw [hsrc, Transducer.run_append, Transducer.run_cons]
      dsimp only
      rw [hfrag, hout]
      exact ⟨ihs, by rw [iho, List.append_assoc]⟩

/-- **`base64_encode_block_scalar`** and the slow encoder from states that agree. -/
theorem base64EncodeBlockScalar_spec {s t : Base64EncodeState T} (h : Same s t)
    (src : List Byte) :
    Same (base64EncodeBlockScalar src s).state (slowEncodeBlock src t).state ∧
      (base64EncodeBlockScalar src s).codeOut = (slowEncodeBlock src t).codeOut ∧
      (base64EncodeBlockScalar src s).returned = (slowEncodeBlock src t).returned := by
  obtain ⟨hsame, hout⟩ := encodeLoop_spec s src
  obtain ⟨hsame', hout'⟩ := h.run src
  have hcode := hout.trans hout'
  exact ⟨hsame.trans hsame', hcode, congrArg List.length hcode⟩

theorem slowEncodeBlock_append (xs ys : List Byte) (t : Base64EncodeState T) :
    (slowEncodeBlock (xs ++ ys) t).state =
        (slowEncodeBlock ys ((slowEncoder T).run t xs).1).state ∧
      (slowEncodeBlock (xs ++ ys) t).codeOut = ((slowEncoder T).run t xs).2 ++
        (slowEncodeBlock ys ((slowEncoder T).run t xs).1).codeOut ∧
      (slowEncodeBlock (xs ++ ys) t).returned = ((slowEncoder T).run t xs).2.length +
        (slowEncodeBlock ys ((slowEncoder T).run t xs).1).returned := by
  simp only [slowEncodeBlock, Transducer.run_append, List.length_append, and_self]

/-- **`base64_encode_block`**, whatever the kernel takes. -/
theorem base64EncodeBlock_spec (simd : Base64EncodeBulkSimd) {s t : Base64EncodeState T}
    (h : Same s t) (src : List Byte) :
    Same (base64EncodeBlock simd src s).state (slowEncodeBlock src t).state ∧
      (base64EncodeBlock simd src s).codeOut = (slowEncodeBlock src t).codeOut ∧
      (base64EncodeBlock simd src s).returned = (slowEncodeBlock src t).returned := by
  unfold base64EncodeBlock
  split
  · next hA =>
    dsimp only
    split
    · have hle := simd.consumed_le src
      have hdvd := simd.three_dvd src
      have htake : (src.take (simd.consumed src)).length = simd.consumed src :=
        List.length_take_of_le hle
      have hproduced : (encode (src.take (simd.consumed src))).length =
          simd.consumed src / 3 * 4 := by
        rw [length_encode, htake]
        omega
      obtain ⟨hfront, hout⟩ := slowEncoder_triples hA.1 hA.2 (by rwa [htake])
      obtain ⟨hrun, hrunOut⟩ := h.run (src.take (simd.consumed src))
      obtain ⟨hs, hc, hr⟩ := base64EncodeBlockScalar_spec (hfront.trans hrun)
        (src.drop (simd.consumed src))
      obtain ⟨hs', hc', hr'⟩ := slowEncodeBlock_append (src.take (simd.consumed src))
        (src.drop (simd.consumed src)) t
      rw [List.take_append_drop] at hs' hc' hr'
      rw [hs', hc', hr', ← hrunOut, hout, hproduced, simd.dst_eq, ← hc, ← hr]
      rw [hproduced] at hs ⊢
      exact ⟨hs, rfl, rfl⟩
    · exact base64EncodeBlockScalar_spec h src
  · exact base64EncodeBlockScalar_spec h src

theorem base64EncodeBlock_returned (simd : Base64EncodeBulkSimd) (src : List Byte)
    (s : Base64EncodeState T) :
    (base64EncodeBlock simd src s).returned = (base64EncodeBlock simd src s).codeOut.length := by
  obtain ⟨-, hcode, hret⟩ := base64EncodeBlock_spec simd (Same.refl s) src
  rw [hret, hcode]
  rfl

@[simp] theorem base64EncodeBlock_take (simd : Base64EncodeBulkSimd) (src : List Byte)
    (s : Base64EncodeState T) :
    (base64EncodeBlock simd src s).codeOut.take (base64EncodeBlock simd src s).returned =
      (base64EncodeBlock simd src s).codeOut := by
  rw [base64EncodeBlock_returned, List.take_length]

@[simp] theorem base64EncodeBlockend_take (s : Base64EncodeState T) :
    (base64EncodeBlockend s).codeOut.take (base64EncodeBlockend s).returned =
      (base64EncodeBlockend s).codeOut :=
  List.take_length

/-! ## Sequences of calls -/

/-- What a caller may do with an encoder state; each block call may use another kernel. -/
inductive EncodeOp (T : Target) where
  | init
  | setCharsPerLine (c : T.SizeT)
  | block (simd : Base64EncodeBulkSimd) (plaintextIn : List Byte)
  | blockend

/-- A call's return value and the characters it stored. -/
structure Emitted where
  returned : Nat
  codeOut : List Byte
deriving DecidableEq, Repr

/-- What a call leaves behind, as a step of a machine. -/
def Base64EncodeResult.emit (r : Base64EncodeResult T) : Base64EncodeState T × List Emitted :=
  (r.state, [⟨r.returned, r.codeOut⟩])

/-- The operations with the block function `block`; only calls return something. -/
def encodeOpsWith (block : Base64EncodeBulkSimd → List Byte → Base64EncodeState T →
    Base64EncodeResult T) : Transducer (Base64EncodeState T) (EncodeOp T) Emitted where
  step s
    | .init => (base64InitEncodestate T, [])
    | .setCharsPerLine c => ({ s with charsPerLine := c }, [])
    | .block simd plaintextIn => (block simd plaintextIn s).emit
    | .blockend => (base64EncodeBlockend s).emit

def encodeOps (T : Target) : Transducer (Base64EncodeState T) (EncodeOp T) Emitted :=
  encodeOpsWith base64EncodeBlock

def slowEncodeOps (T : Target) : Transducer (Base64EncodeState T) (EncodeOp T) Emitted :=
  encodeOpsWith fun _ => slowEncodeBlock

theorem encodeOps_step {s t : Base64EncodeState T} (h : Same s t) (op : EncodeOp T) :
    Same ((encodeOps T).step s op).1 ((slowEncodeOps T).step t op).1 ∧
      ((encodeOps T).step s op).2 = ((slowEncodeOps T).step t op).2 := by
  cases op with
  | init => exact ⟨Same.refl _, rfl⟩
  | setCharsPerLine c => exact ⟨⟨h.step, h.stepcount, rfl, h.result⟩, rfl⟩
  | block simd plaintextIn =>
    obtain ⟨hs, hc, hr⟩ := base64EncodeBlock_spec simd h plaintextIn
    simp only [encodeOps, slowEncodeOps, encodeOpsWith, Base64EncodeResult.emit, hc, hr, and_true]
    exact hs
  | blockend =>
    obtain ⟨hs, hc⟩ := h.blockend
    have hr : (base64EncodeBlockend s).returned = (base64EncodeBlockend t).returned :=
      congrArg List.length hc
    simp only [encodeOps, slowEncodeOps, encodeOpsWith, Base64EncodeResult.emit, hc, hr, and_true]
    exact hs

theorem encodeOps_simulation (T : Target) :
    Transducer.Simulation (encodeOps T) (slowEncodeOps T) Same fun op => [op] where
  state h op := (Transducer.run_singleton (slowEncodeOps T) _ op).symm ▸ (encodeOps_step h op).1
  output h op := (Transducer.run_singleton (slowEncodeOps T) _ op).symm ▸ (encodeOps_step h op).2

/-- **The fast paths refine the per-character encoder over any sequence of calls.** -/
theorem encodeOps_refines (T : Target) (ops : List (EncodeOp T)) :
    List.Forall₂ (fun fast slow => fast.2 = slow.2 ∧ fast.1.step = slow.1.step ∧
        fast.1.stepcount = slow.1.stepcount ∧ fast.1.charsPerLine = slow.1.charsPerLine ∧
        (fast.1.step ≠ .stepA → fast.1.result = slow.1.result))
      ((encodeOps T).trace (base64InitEncodestate T) ops)
      ((slowEncodeOps T).trace (base64InitEncodestate T) ops) := by
  have htrace := (encodeOps_simulation T).trace (g := fun op => op)
    (Same.refl (base64InitEncodestate T)) ops
  rw [List.map_id'] at htrace
  refine htrace.imp ?_
  rintro fast slow ⟨hsame, hout⟩
  exact ⟨hout, hsame.step, hsame.stepcount, hsame.charsPerLine, hsame.result⟩

end Libb64
