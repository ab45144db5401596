import Libb64.Verify.EncodeSteps
import Libb64.Lib.Lines

/-!
# What the encoder's states stand for

The per-character encoder refines a machine without C in it (`encodeMachine`): bytes are regrouped
into sextets, sextets are written as symbols, and symbols are broken into lines. A state stands for
the bits read and not yet written (`Pending`) and for the place on the current line (`OnLine`).
One lemma about each label gives the simulation, and with it what any run writes
(`slowEncoder_run`).
-/

namespace Libb64

open BitString Rfc4648 Lines

variable {T : Target}

/-- `base64_encode_block_scalar` without its bulk loop, one byte at a time. -/
def slowEncoder (T : Target) : Transducer (Base64EncodeState T) Byte Byte := ⟨encodeFragment⟩

/-- Bytes to sextets to symbols to lines of `c` characters. -/
def encodeMachine (c : Nat) : Transducer (List Bool × Nat) Byte Byte :=
  ((regroup 8 6).mapOut symbol).comp (breaker newline c)

/-- The bits `q` are read and not yet written. -/
def Pending (s : Base64EncodeState T) (q : List Bool) : Prop :=
  match s.step with
  | .stepA => q = []
  | .stepB => q.length = 2 ∧ s.result = held q
  | .stepC => q.length = 4 ∧ s.result = held q

/-- Lines have `c` characters and the current one has `n`; unwrapped text has no current line. -/
structure OnLine (s : Base64EncodeState T) (c n : Nat) : Prop where
  width : s.charsPerLine.toNat = c
  count : c = 0 ∨ s.stepcount.toNat = n

/-! ## `CHECK_BREAK` -/

section CheckBreak

variable (s : Base64EncodeState T)

@[simp] theorem checkBreak_step : (checkBreak s).1.step = s.step := by
  unfold checkBreak
  dsimp only
  split <;> rfl

@[simp] theorem checkBreak_result : (checkBreak s).1.result = s.result := by
  unfold checkBreak
  dsimp only
  split <;> rfl

@[simp] theorem checkBreak_charsPerLine :
    (checkBreak s).1.charsPerLine = s.charsPerLine := by
  unfold checkBreak
  dsimp only
  split <;> rfl

variable {s}

theorem checkBreak_of_full (h : s.charsPerLine ≠ 0 ∧ s.stepcount ≥ s.charsPerLine) :
    checkBreak s = ({ s with stepcount := 1 }, [newline]) := by
  have hone : (0 + 1 : T.SizeT) = 1 := BitVec.zero_add 1
  simp only [checkBreak, if_pos h, hone]

theorem checkBreak_of_not_full (h : ¬(s.charsPerLine ≠ 0 ∧ s.stepcount ≥ s.charsPerLine)) :
    checkBreak s = ({ s with stepcount := s.stepcount + 1 }, []) := by
  simp only [checkBreak, if_neg h]

theorem OnLine.full_iff {c n : Nat} (h : OnLine s c n) :
    (s.charsPerLine ≠ 0 ∧ s.stepcount ≥ s.charsPerLine) ↔ c ≠ 0 ∧ c ≤ n := by
  obtain ⟨hc, hn⟩ := h
  have hzero : s.charsPerLine ≠ 0 ↔ c ≠ 0 := by
    rw [← hc, ne_eq, ne_eq, toNat_eq_zero_iff]
  rw [hzero, ge_iff_le, BitVec.le_def, hc]
  omega

theorem checkBreak_spec {c n : Nat} (h : OnLine s c n) (x : Byte) :
    OnLine (checkBreak s).1 c ((breaker newline c).step n x).1 ∧
      (checkBreak s).2 ++ [x] = ((breaker newline c).step n x).2 := by
  have hone : (1 : T.SizeT).toNat = 1 := by
    have := T.sizeBits_ge
    exact BitVec.toNat_one (by omega)
  by_cases hfull : c ≠ 0 ∧ c ≤ n
  · have hstep : (breaker newline c).step n x = (1, [newline, x]) := if_pos hfull
    rw [checkBreak_of_full (h.full_iff.mpr hfull), hstep]
    exact ⟨⟨h.width, .inr hone⟩, rfl⟩
  · have hstep : (breaker newline c).step n x = (n + 1, [x]) := if_neg hfull
    rw [checkBreak_of_not_full (mt h.full_iff.mp hfull), hstep]
    refine ⟨⟨h.width, ?_⟩, rfl⟩
    rcases h.count with hc | hn
    · exact .inl hc
    by_cases hc : c = 0
    · exact .inl hc
    -- below the width the count cannot wrap
    · have hwidth := h.width
      have hlt := s.charsPerLine.isLt
      right
      rw [BitVec.toNat_add, hone, hn, Nat.mod_eq_of_lt (by omega)]

end CheckBreak

/-! ## The labels -/

/-- What a step of the machine does with a byte, by the number of bits pending. -/
theorem encodeMachine_step (c : Nat) (q : List Bool) (n : Nat) (f : Byte) :
    (encodeMachine c).step (q, n) f =
      let r := (breaker newline c).run n ((groups 6 (q ++ ofDigit f)).map symbol)
      ((rest 6 (q ++ ofDigit f), r.1), r.2) := rfl

/-- The machine and the code agree on one byte, the machine entered with `q` pending and `n`
characters on the line. -/
def Follows (s : Base64EncodeState T) (c : Nat) (q : List Bool) (n : Nat) (f : Byte) : Prop :=
  let r := (encodeMachine c).step (q, n) f
  Pending (encodeFragment s f).1 r.1.1 ∧ OnLine (encodeFragment s f).1 c r.1.2 ∧
    (encodeFragment s f).2 = r.2

section Labels

variable {s : Base64EncodeState T} {c n : Nat} {q : List Bool} (f : Byte)

theorem encodeStepA_spec (hs : s.step = .stepA) (h : OnLine s c n) : Follows s c [] n f := by
  have hgroups : groups 6 (ofDigit f) = [digit 6 (ofDigit f)] := by
    rw [groups_of_le (by omega) (by simp), groups_of_lt (by simp)]
  have hrest : rest 6 (ofDigit f) = (ofDigit f).drop 6 := by
    rw [rest_of_le (by omega) (by simp), rest_of_lt (by simp)]
  obtain ⟨hline, hout⟩ := checkBreak_spec h (symbol (digit 6 (ofDigit f)))
  simp only [Follows, encodeMachine_step, encodeFragment, hs, List.nil_append, hgroups, hrest,
    List.map_singleton, Transducer.run_singleton, ← hout]
  refine ⟨⟨by simp, stepA_rest f⟩, ⟨hline.width, hline.count⟩, ?_⟩
  simp only [encodeStepA, stepA_first, encodingAt_held]

theorem encodeStepB_spec (hs : s.step = .stepB) (hq : q.length = 2) (hr : s.result = held q)
    (h : OnLine s c n) : Follows s c q n f := by
  have hlen : (q ++ ofDigit f).length = 10 := by simp [hq]
  have hdrop : (q ++ ofDigit f).drop 6 = (ofDigit f).drop 4 := by
    simp [List.drop_append, hq]
  have hgroups : groups 6 (q ++ ofDigit f) = [digit 6 (q ++ ofDigit f)] := by
    rw [groups_of_le (by omega) (by omega), groups_of_lt (by simp [hq])]
  have hrest : rest 6 (q ++ ofDigit f) = (ofDigit f).drop 4 := by
    rw [rest_of_le (by omega) (by omega), hdrop, rest_of_lt (by simp)]
  obtain ⟨hline, hout⟩ := checkBreak_spec h (symbol (digit 6 (q ++ ofDigit f)))
  simp only [Follows, encodeMachine_step, encodeFragment, hs, hgroups, hrest,
    List.map_singleton, Transducer.run_singleton, ← hout]
  refine ⟨⟨by simp, stepB_rest f⟩, ⟨hline.width, hline.count⟩, ?_⟩
  simp only [encodeStepB, checkBreak_result, hr, stepB_first f hq, encodingAt_held]

theorem encodeStepC_spec (hs : s.step = .stepC) (hq : q.length = 4) (hr : s.result = held q)
    (h : OnLine s c n) : Follows s c q n f := by
  have hlen : (q ++ ofDigit f).length = 12 := by simp [hq]
  have hdrop : (q ++ ofDigit f).drop 6 = (ofDigit f).drop 2 := by
    simp [List.drop_append, hq]
  have hgroups : groups 6 (q ++ ofDigit f) =
      [digit 6 (q ++ ofDigit f), digit 6 ((ofDigit f).drop 2)] := by
    rw [groups_of_le (by omega) (by omega), hdrop, groups_of_le (by omega) (by simp),
      groups_of_lt (by simp)]
  have hrest : rest 6 (q ++ ofDigit f) = [] := by
    rw [← List.length_eq_zero_iff, length_rest, hlen]
  obtain ⟨hline, hout⟩ := checkBreak_spec h (symbol (digit 6 (q ++ ofDigit f)))
  obtain ⟨hline', hout'⟩ := checkBreak_spec hline (symbol (digit 6 ((ofDigit f).drop 2)))
  simp only [Follows, encodeMachine_step, encodeFragment, hs, hgroups, hrest, List.map_cons,
    List.map_nil, Transducer.run_cons, Transducer.run_nil, List.append_nil, ← hout, ← hout']
  refine ⟨rfl, ⟨hline'.width, hline'.count⟩, ?_⟩
  simp only [encodeStepC, checkBreak_result, hr, stepC_first f hq, stepC_last, encodingAt_held,
    List.append_assoc]

end Labels

/-- **One byte**: the per-character encoder does what the machine does. -/
theorem encodeFragment_spec {s : Base64EncodeState T} {c n : Nat} {q : List Bool}
    (hp : Pending s q) (h : OnLine s c n) (f : Byte) : Follows s c q n f := by
  cases hs : s.step <;> simp only [Pending, hs] at hp
  case stepA =>
    subst hp
    exact encodeStepA_spec f hs h
  case stepB => exact encodeStepB_spec f hs hp.1 hp.2 h
  case stepC => exact encodeStepC_spec f hs hp.1 hp.2 h

/-! ## Runs -/

/-- The per-character encoder refines the machine. -/
theorem slowEncoder_simulation (T : Target) (c : Nat) :
    Transducer.Simulation (slowEncoder T) (encodeMachine c)
      (fun s t => Pending s t.1 ∧ OnLine s c t.2) fun f => [f] where
  state := by
    intro s t h f
    rw [Transducer.run_singleton]
    have hf := encodeFragment_spec h.1 h.2 f
    exact ⟨hf.1, hf.2.1⟩
  output := by
    intro s t h f
    rw [Transducer.run_singleton]
    exact (encodeFragment_spec h.1 h.2 f).2.2

/-- A run of the machine in terms of bit strings. -/
theorem encodeMachine_run (c : Nat) {q : List Bool} (hq : q.length < 6) (n : Nat)
    (xs : List Byte) :
    (encodeMachine c).run (q, n) xs =
      let r := (breaker newline c).run n ((groups 6 (q ++ ofDigits xs)).map symbol)
      ((rest 6 (q ++ ofDigits xs), r.1), r.2) := by
  simp only [encodeMachine, Transducer.comp_run, Transducer.mapOut_run, regroup_run (by omega) hq]

theorem Pending.length_lt {s : Base64EncodeState T} {q : List Bool} (h : Pending s q) :
    q.length < 6 := by
  unfold Pending at h
  split at h
  · simp [h]
  · omega
  · omega

/-- **A run of the per-character encoder** from any state: the complete groups of the pending bits
and the bytes are written as symbols and broken into lines. -/
theorem slowEncoder_run {s : Base64EncodeState T} {c n : Nat} {q : List Bool} (hp : Pending s q)
    (h : OnLine s c n) (xs : List Byte) :
    let r := (breaker newline c).run n ((groups 6 (q ++ ofDigits xs)).map symbol)
    Pending ((slowEncoder T).run s xs).1 (rest 6 (q ++ ofDigits xs)) ∧
      OnLine ((slowEncoder T).run s xs).1 c r.1 ∧ ((slowEncoder T).run s xs).2 = r.2 := by
  have hsim := (slowEncoder_simulation T c).run (t := (q, n)) ⟨hp, h⟩ xs
  have hid : xs.flatMap (fun f => [f]) = xs := by simp
  rw [hid, encodeMachine_run c hp.length_lt] at hsim
  exact ⟨hsim.1.1, hsim.1.2, hsim.2⟩

/-! ## The end of a text -/

/-- The characters that pending bits still owe: their symbol and the padding. -/
def closing (q : List Bool) : List Byte :=
  if q = [] then [] else symbol (digit 6 q) :: List.replicate ((6 - q.length) / 2) pad

/-- The characters of a bit string that a text ends with: the symbols of its groups and what the
bits after them owe. -/
def charactersOf (bits : List Bool) : List Byte :=
  (groups 6 bits).map symbol ++ closing (rest 6 bits)

theorem length_charactersOf (bits : List Bool) : (charactersOf bits).length =
    bits.length / 6 + if bits.length % 6 = 0 then 0 else 1 + (6 - bits.length % 6) / 2 := by
  have hrest := length_rest (w := 6) bits
  rw [charactersOf, List.length_append, List.length_map, length_groups, closing]
  by_cases h : rest 6 bits = []
  · rw [h, List.length_nil] at hrest
    rw [if_pos h, if_pos hrest.symm, List.length_nil]
  · have hpos : 0 < (rest 6 bits).length := List.length_pos_iff.mpr h
    rw [if_neg h, if_neg (by omega), List.length_cons, List.length_replicate, hrest, Nat.add_comm 1]

/-- What is neither in the alphabet nor the padding character is not written. -/
theorem notMem_charactersOf {b : Byte} (hb : inAlphabet b = false) (hpad : b ≠ pad)
    (bits : List Bool) : b ∉ charactersOf bits := by
  have hsymbol : ∀ v, b ≠ symbol v := by
    rintro v rfl
    rw [inAlphabet_symbol] at hb
    cases hb
  intro hmem
  rcases List.mem_append.mp hmem with hmem | hmem
  · obtain ⟨v, -, hv⟩ := List.mem_map.mp hmem
    exact hsymbol v hv.symm
  · unfold closing at hmem
    split at hmem
    · cases hmem
    · rcases List.mem_cons.mp hmem with hmem | hmem
      · exact hsymbol _ hmem
      · exact hpad (List.eq_of_mem_replicate hmem)

/-- An encoding is the symbols of the complete groups and what the bits after them owe. -/
theorem encode_eq (x : List Byte) : encode x =
    (groups 6 (ofDigits x)).map symbol ++ closing (rest 6 (ofDigits x)) := by
  have hlen := length_rest (w := 6) (ofDigits x)
  have hgroups := length_groups (w := 6) (ofDigits x)
  rw [length_ofDigits] at hlen hgroups
  by_cases h : rest 6 (ofDigits x) = []
  · rw [h, List.length_nil] at hlen
    have hpad : (4 - 8 * x.length / 6 % 4) % 4 = 0 := by
      omega
    simp [encode, symbols, padded, h, closing, hpad]
  · have hpos : 0 < (rest 6 (ofDigits x)).length := List.length_pos_iff.mpr h
    have hpad : (4 - ((groups 6 (ofDigits x)).length + 1) % 4) % 4 =
        (6 - (rest 6 (ofDigits x)).length) / 2 := by
      rw [hgroups, hlen]
      rw [hlen] at hpos
      omega
    simp only [encode, symbols, padded, h, closing, if_false, List.map_append, List.map_cons,
      List.map_nil, List.length_append, List.length_map, List.length_singleton, hpad,
      List.append_assoc, List.singleton_append]

/-- The newline that ends the last line of a wrapped text. -/
def lineEnd (c : Nat) : List Byte := if c = 0 then [] else [newline]

theorem OnLine.lineEnd_eq {s : Base64EncodeState T} {c n : Nat} (h : OnLine s c n) :
    (if s.charsPerLine ≠ 0 then [newline] else []) = lineEnd c := by
  have hzero : s.charsPerLine = 0 ↔ c = 0 := by
    rw [← h.width, toNat_eq_zero_iff]
  simp only [lineEnd, ne_eq, hzero, ite_not]

/-- **`base64_encode_blockend`** writes what the pending bits owe and ends the line. -/
theorem base64EncodeBlockend_spec {s : Base64EncodeState T} {c n : Nat} {q : List Bool}
    (hp : Pending s q) (h : OnLine s c n) :
    (base64EncodeBlockend s).codeOut =
      ((breaker newline c).run n (closing q)).2 ++ lineEnd c := by
  cases hs : s.step <;> simp only [Pending, hs] at hp
  case stepA =>
    subst hp
    rw [← h.lineEnd_eq]
    simp only [base64EncodeBlockend, hs, closing, if_true]
    split <;> simp
  case stepB =>
    obtain ⟨hq, hr⟩ := hp
    have hne : q ≠ [] := List.ne_nil_of_length_pos (by omega)
    obtain ⟨h1, out1⟩ := checkBreak_spec h (symbol (digit 6 q))
    obtain ⟨h2, out2⟩ := checkBreak_spec h1 pad
    obtain ⟨h3, out3⟩ := checkBreak_spec h2 pad
    rw [← h3.lineEnd_eq]
    simp only [closing, hne, hq, if_false, List.replicate, Transducer.run_cons,
      Transducer.run_nil, List.append_nil, ← out1, ← out2, ← out3]
    simp only [base64EncodeBlockend, hs, checkBreak_result, hr, base64EncodeValue_held]
    split <;> simp [pad]
  case stepC =>
    obtain ⟨hq, hr⟩ := hp
    have hne : q ≠ [] := List.ne_nil_of_length_pos (by omega)
    obtain ⟨h1, out1⟩ := checkBreak_spec h (symbol (digit 6 q))
    obtain ⟨h2, out2⟩ := checkBreak_spec h1 pad
    rw [← h2.lineEnd_eq]
    simp only [closing, hne, hq, if_false, List.replicate, Transducer.run_cons,
      Transducer.run_nil, List.append_nil, ← out1, ← out2]
    simp only [base64EncodeBlockend, hs, checkBreak_result, hr, base64EncodeValue_held]
    split <;> simp [pad]

end Libb64
