import Libb64.Verify.BlockLength

/-!
# The encoder's state invariant

Whatever is done with an encoder state, `result` holds pending bits in the high positions of a
sextet, so each lookup `encoding[(int)result]` of the next call is inside the table. The lookups
are logged in the order in which the source makes them (`fragmentIndices`, `blockIndices`), and
what a block call writes beside bulk text and newlines is what it finds there
(`base64EncodeBlock_lookups`). As long as the line width set after the initialisation stays as it
is, the count of the line stays within it.
-/

namespace Libb64

open BitString Rfc4648 Lines

variable {T : Target}

/-! ## The lookups of a call -/

/-- `(int)result` at each lookup that a byte causes. -/
def fragmentIndices (stateIn : Base64EncodeState T) (fragment : Byte) : List CInt :=
  match stateIn.step with
  | .stepA => [T.promote (toChar ((T.promote fragment &&& 0x0fc).sshiftRight 2))]
  | .stepB =>
    [T.promote (toChar (T.promote stateIn.result ||| (T.promote fragment &&& 0x0f0).sshiftRight 4))]
  | .stepC =>
    [T.promote (toChar (T.promote stateIn.result ||| (T.promote fragment &&& 0x0c0).sshiftRight 6)),
      T.promote (toChar ((T.promote fragment &&& 0x03f).sshiftRight 0))]

/-- One turn of `encodeLoop`: what its bulk path stores, and the byte that takes the per-character
path, with the state it finds there. -/
structure LoopTurn (T : Target) where
  bulk : List Byte
  state : Base64EncodeState T
  fragment : Byte

/-- The characters of the per-character path. -/
def LoopTurn.code (turn : LoopTurn T) : List Byte :=
  (encodeFragment turn.state turn.fragment).2

def LoopTurn.indices (turn : LoopTurn T) : List CInt :=
  fragmentIndices turn.state turn.fragment

/-- The turns of `encodeLoop`, and what the bulk path stores after which no byte is left. -/
def loopTurns (stateIn : Base64EncodeState T) (plainchar : List Byte) :
    List (LoopTurn T) × List Byte :=
  match _h : encodeBulkPath stateIn plainchar with
  | (_, bulk, []) => ([], bulk)
  | (state, bulk, fragment :: plainchar') =>
    let (turns, last) := loopTurns (encodeFragment state fragment).1 plainchar'
    (⟨bulk, state, fragment⟩ :: turns, last)
termination_by plainchar.length
decreasing_by
  have hle := encodeBulkPath_length_le stateIn plainchar
  rw [_h] at hle
  exact hle

/-- The turns that `base64_encode_block` makes in the scalar core. -/
def blockTurns (simd : Base64EncodeBulkSimd) (plaintextIn : List Byte)
    (stateIn : Base64EncodeState T) : List (LoopTurn T) × List Byte :=
  if stateIn.step = .stepA ∧ stateIn.charsPerLine = 0 then
    let consumed := simd.consumed plaintextIn
    if consumed ≠ 0 then
      let produced := consumed / 3 * 4
      let stateIn := { stateIn with stepcount := stateIn.stepcount + BitVec.ofNat _ produced }
      loopTurns stateIn (plaintextIn.drop consumed)
    else
      loopTurns stateIn plaintextIn
  else
    loopTurns stateIn plaintextIn

/-- The text of the turns. -/
def turnsText (turns : List (LoopTurn T) × List Byte) : List Byte :=
  turns.1.flatMap (fun turn => turn.bulk ++ turn.code) ++ turns.2

/-- The lookups of `base64_encode_block`; its bulk paths use other tables. -/
def blockIndices (simd : Base64EncodeBulkSimd) (plaintextIn : List Byte)
    (stateIn : Base64EncodeState T) : List CInt :=
  (blockTurns simd plaintextIn stateIn).1.flatMap LoopTurn.indices

theorem checkBreak_filter (s : Base64EncodeState T) :
    (checkBreak s).2.filter (· != newline) = [] := by
  by_cases hfull : s.charsPerLine ≠ 0 ∧ s.stepcount ≥ s.charsPerLine
  · rw [checkBreak_of_full hfull]
    rfl
  · rw [checkBreak_of_not_full hfull]
    rfl

theorem encodingAt_ne_newline (r : Byte) : (encodingAt T r != newline) = true := by
  rw [encodingAt]
  generalize (T.promote r).toNat = i
  by_cases hi : i < 64
  · have hall : (List.range 64).all (fun i => encoding.getD i 0 != newline) = true := by decide
    exact List.all_eq_true.mp hall i (List.mem_range.mpr hi)
  · have hlen : encoding.length ≤ i := Nat.le_of_not_lt hi
    rw [List.getD_eq_getElem?_getD, List.getElem?_eq_none hlen]
    rfl

/-- A byte's characters, less the newlines, are the entries at the logged indices. -/
theorem encodeFragment_lookups (s : Base64EncodeState T) (f : Byte) :
    (encodeFragment s f).2.filter (· != newline) =
      (fragmentIndices s f).map fun i => encoding.getD i.toNat 0 := by
  have hkept : ∀ r : Byte, [encodingAt T r].filter (· != newline) = [encodingAt T r] :=
    fun r => List.filter_cons_of_pos (encodingAt_ne_newline r)
  cases hs : s.step
  case stepA =>
    simp only [encodeFragment, fragmentIndices, hs, encodeStepA, List.filter_append,
      checkBreak_filter, hkept]
    rfl
  case stepB =>
    simp only [encodeFragment, fragmentIndices, hs, encodeStepB, List.filter_append,
      checkBreak_filter, hkept, checkBreak_result]
    rfl
  case stepC =>
    simp only [encodeFragment, fragmentIndices, hs, encodeStepC, List.filter_append,
      checkBreak_filter, hkept, checkBreak_result]
    rfl

theorem turnsText_cons (turn : LoopTurn T) (turns : List (LoopTurn T)) (last : List Byte) :
    turnsText (turn :: turns, last) = turn.bulk ++ turn.code ++ turnsText (turns, last) := by
  simp [turnsText]

/-- **The turns make up the loop.** -/
theorem encodeLoop_turns (s : Base64EncodeState T) (src : List Byte) :
    (encodeLoop s src).2 = turnsText (loopTurns s src) := by
  fun_induction loopTurns s src with
  | case1 s src state bulk heq =>
    rw [encodeLoop]
    split
    · next hnil =>
      rw [heq] at hnil
      cases hnil
      rfl
    · next hcons =>
      rw [heq] at hcons
      cases hcons
  | case2 s src state bulk fragment src' heq turns last hrest ih =>
    rw [hrest] at ih
    rw [encodeLoop]
    split
    · next hnil =>
      rw [heq] at hnil
      cases hnil
    · next hcons =>
      rw [heq] at hcons
      cases hcons
      rw [turnsText_cons, ← ih]
      rfl

/-- The scalar core is entered with another count at most, on a part of the bytes. -/
theorem blockTurns_eq (simd : Base64EncodeBulkSimd) (src : List Byte)
    (s : Base64EncodeState T) :
    ∃ n src', blockTurns simd src s = loopTurns { s with stepcount := n } src' := by
  unfold blockTurns
  split
  · dsimp only
    split
    · exact ⟨_, src.drop (simd.consumed src), rfl⟩
    · exact ⟨s.stepcount, src, rfl⟩
  · exact ⟨s.stepcount, src, rfl⟩

/-- What the turns write on the per-character path, less the newlines, is what they look up. -/
theorem turns_lookups (turns : List (LoopTurn T)) :
    (turns.flatMap LoopTurn.code).filter (· != newline) =
      (turns.flatMap LoopTurn.indices).map fun i => encoding.getD i.toNat 0 := by
  induction turns with
  | nil => rfl
  | cons turn turns ih =>
    rw [List.flatMap_cons, List.flatMap_cons, List.filter_append, List.map_append, ih]
    exact congrArg (· ++ _) (encodeFragment_lookups turn.state turn.fragment)

/-- **The lookups of a block call**: its text is what the bulk function stores, if it is called, and
the text of the turns; and what these write on the per-character path, less the newlines, are the
entries at the logged indices. -/
theorem base64EncodeBlock_lookups (simd : Base64EncodeBulkSimd) (src : List Byte)
    (s : Base64EncodeState T) :
    (∃ front, (front = [] ∨ front = simd.dst src) ∧
        (base64EncodeBlock simd src s).codeOut = front ++ turnsText (blockTurns simd src s)) ∧
      ((blockTurns simd src s).1.flatMap LoopTurn.code).filter (· != newline) =
        (blockIndices simd src s).map fun i => encoding.getD i.toNat 0 := by
  refine ⟨?_, turns_lookups _⟩
  unfold base64EncodeBlock blockTurns
  split
  · dsimp only
    split
    · exact ⟨simd.dst src, .inr rfl, congrArg _ (encodeLoop_turns _ _)⟩
    · exact ⟨[], .inl rfl, encodeLoop_turns s src⟩
  · exact ⟨[], .inl rfl, encodeLoop_turns s src⟩

/-! ## Pending bits at every reachable state -/

theorem onLine_self (s : Base64EncodeState T) :
    OnLine s s.charsPerLine.toNat s.stepcount.toNat := ⟨rfl, .inr rfl⟩

theorem base64EncodeBlockend_keeps (s : Base64EncodeState T) :
    (base64EncodeBlockend s).state.step = s.step ∧
      (base64EncodeBlockend s).state.result = s.result := by
  cases hs : s.step <;> simp [base64EncodeBlockend, hs]

theorem Pending.block {s : Base64EncodeState T} {q : List Bool} (hp : Pending s q)
    (simd : Base64EncodeBulkSimd) (src : List Byte) :
    ∃ q', Pending (base64EncodeBlock simd src s).state q' := by
  obtain ⟨hsame, -⟩ := base64EncodeBlock_spec simd (Same.refl s) src
  obtain ⟨hp', -⟩ := slowEncoder_run hp (onLine_self s) src
  exact ⟨_, hp'.of_same hsame⟩

/-- **Every reachable state holds pending bits.** -/
theorem exists_pending_of_ops (ops : List (EncodeOp T)) :
    ∃ q, Pending ((encodeOps T).run (base64InitEncodestate T) ops).1 q := by
  apply (encodeOps T).run_invariant (P := fun s => ∃ q, Pending s q)
  · rintro s op ⟨q, hp⟩
    cases op with
    | init => exact ⟨[], rfl⟩
    | setCharsPerLine c => exact ⟨q, hp⟩
    | block simd src => exact hp.block simd src
    | blockend =>
      obtain ⟨hstep, hresult⟩ := base64EncodeBlockend_keeps s
      refine ⟨q, ?_⟩
      simp only [encodeOps, encodeOpsWith, Base64EncodeResult.emit, Pending, hstep, hresult]
      exact hp
  · exact ⟨[], rfl⟩

/-! ## The lookups are in range -/

/-- An index into the table of 64 characters. -/
def InTable (i : CInt) : Prop := 0 ≤ i.toInt ∧ i.toInt ≤ 63

theorem inTable_held (q : List Bool) : InTable (T.promote (held q)) := by
  have hlt := (digit 6 q).isLt
  have hnat : ((held q).setWidth 32).toNat = (digit 6 q).toNat := by
    rw [BitVec.toNat_setWidth, toNat_held]
    omega
  have hint : ((held q).setWidth 32).toInt = (digit 6 q).toNat := by
    rw [BitVec.toInt_eq_toNat_of_lt (by omega), hnat]
  rw [InTable, promote_of_msb_false (msb_held q), hint]
  omega

theorem fragmentIndices_inTable {s : Base64EncodeState T} {q : List Bool} (hp : Pending s q)
    (f : Byte) : ∀ i ∈ fragmentIndices s f, InTable i := by
  intro i hi
  cases hs : s.step <;> simp only [Pending, hs] at hp <;>
    simp only [fragmentIndices, hs, List.mem_cons, List.not_mem_nil, or_false] at hi
  case stepA =>
    rw [hi, stepA_first]
    exact inTable_held _
  case stepB =>
    rw [hi, hp.2, stepB_first f hp.1]
    exact inTable_held _
  case stepC =>
    rcases hi with hi | hi
    · rw [hi, hp.2, stepC_first f hp.1]
      exact inTable_held _
    · rw [hi, stepC_last]
      exact inTable_held _

theorem Pending.bulkPath {s : Base64EncodeState T} {q : List Bool} (hp : Pending s q)
    (src : List Byte) : Pending (encodeBulkPath s src).1 q := by
  unfold encodeBulkPath
  split
  · exact hp
  · exact hp

/-- Every turn of the loop finds pending bits. -/
theorem Pending.loopTurns {s : Base64EncodeState T} {q : List Bool} (hp : Pending s q)
    (src : List Byte) : ∀ turn ∈ (loopTurns s src).1, ∃ q', Pending turn.state q' := by
  fun_induction Libb64.loopTurns s src generalizing q with
  | case1 s src state bulk heq => exact fun turn hturn => absurd hturn List.not_mem_nil
  | case2 s src state bulk fragment src' heq turns last hrest ih =>
    have hbulk := hp.bulkPath src
    rw [heq] at hbulk
    have hfrag := encodeFragment_spec hbulk (onLine_self state) fragment
    rw [hrest] at ih
    intro turn hturn
    rcases List.mem_cons.mp hturn with rfl | hturn
    · exact ⟨q, hbulk⟩
    · exact ih hfrag.1 turn hturn

theorem Pending.blockTurns {s : Base64EncodeState T} {q : List Bool} (hp : Pending s q)
    (simd : Base64EncodeBulkSimd) (src : List Byte) :
    ∀ turn ∈ (blockTurns simd src s).1, ∃ q', Pending turn.state q' := by
  obtain ⟨n, src', hturns⟩ := blockTurns_eq simd src s
  have hp' : Pending { s with stepcount := n } q := hp
  rw [hturns]
  exact hp'.loopTurns src'

/-- **Every lookup of a block call** is in range. -/
theorem blockIndices_inTable {s : Base64EncodeState T} {q : List Bool} (hp : Pending s q)
    (simd : Base64EncodeBulkSimd) (src : List Byte) : ∀ i ∈ blockIndices simd src s, InTable i := by
  intro i hi
  obtain ⟨turn, hturn, hi⟩ := List.mem_flatMap.mp hi
  obtain ⟨q', hp'⟩ := hp.blockTurns simd src turn hturn
  exact fragmentIndices_inTable hp' turn.fragment i hi

/-! ## What a block call writes -/

theorem inAlphabet_of_mem_encode {x : List Byte} (hx : 3 ∣ x.length) :
    ∀ c ∈ encode x, inAlphabet c = true := by
  have hnone : (4 - (symbols x).length % 4) % 4 = 0 := by
    rw [length_symbols]
    omega
  intro c hc
  rw [encode, hnone, List.replicate_zero, List.append_nil] at hc
  obtain ⟨v, -, rfl⟩ := List.mem_map.mp hc
  exact inAlphabet_symbol v

theorem inAlphabet_encoding {i : CInt} (hi : InTable i) :
    inAlphabet (encoding.getD i.toNat 0) = true := by
  have hall : (List.range 64).all (fun n => inAlphabet (encoding.getD n 0)) = true := by decide
  have hnat : i.toNat < 64 := by
    have hint := BitVec.toInt_eq_toNat_cond i
    unfold InTable at hi
    split at hint <;> omega
  exact List.all_eq_true.mp hall i.toNat (List.mem_range.mpr hnat)

theorem encodeBulkPath_inAlphabet (s : Base64EncodeState T) (src : List Byte) :
    ∀ c ∈ (encodeBulkPath s src).2.1, inAlphabet c = true := by
  unfold encodeBulkPath
  split
  · obtain ⟨front, -, hdvd, hout⟩ := encodeTriples_spec src
    dsimp only
    rw [hout]
    exact inAlphabet_of_mem_encode hdvd
  · exact fun c hc => absurd hc List.not_mem_nil

/-- The bulk text of the turns. -/
theorem loopTurns_bulk (s : Base64EncodeState T) (src : List Byte) :
    (∀ turn ∈ (loopTurns s src).1, ∀ c ∈ turn.bulk, inAlphabet c = true) ∧
      ∀ c ∈ (loopTurns s src).2, inAlphabet c = true := by
  fun_induction loopTurns s src with
  | case1 s src state bulk heq =>
    have hbulk := encodeBulkPath_inAlphabet s src
    rw [heq] at hbulk
    exact ⟨fun turn hturn => absurd hturn List.not_mem_nil, hbulk⟩
  | case2 s src state bulk fragment src' heq turns last hrest ih =>
    have hbulk := encodeBulkPath_inAlphabet s src
    rw [heq] at hbulk
    rw [hrest] at ih
    refine ⟨fun turn hturn => ?_, ih.2⟩
    rcases List.mem_cons.mp hturn with rfl | hturn
    · exact hbulk
    · exact ih.1 turn hturn

theorem blockTurns_bulk (simd : Base64EncodeBulkSimd) (src : List Byte)
    (s : Base64EncodeState T) :
    (∀ turn ∈ (blockTurns simd src s).1, ∀ c ∈ turn.bulk, inAlphabet c = true) ∧
      ∀ c ∈ (blockTurns simd src s).2, inAlphabet c = true := by
  obtain ⟨n, src', hturns⟩ := blockTurns_eq simd src s
  rw [hturns]
  exact loopTurns_bulk _ src'

/-- **A block call writes** newlines and characters of the alphabet: bulk text, and what the lookups
find in the table. -/
theorem base64EncodeBlock_data {s : Base64EncodeState T} {q : List Bool} (hp : Pending s q)
    (simd : Base64EncodeBulkSimd) (src : List Byte) :
    ∀ c ∈ (base64EncodeBlock simd src s).codeOut, c = newline ∨ inAlphabet c = true := by
  obtain ⟨⟨front, hfront, htext⟩, hlookups⟩ := base64EncodeBlock_lookups simd src s
  obtain ⟨hbulk, hlast⟩ := blockTurns_bulk simd src s
  intro c hc
  rw [htext, turnsText] at hc
  rcases List.mem_append.mp hc with hc | hc
  · rcases hfront with rfl | rfl
    · cases hc
    · have hdvd : 3 ∣ (src.take (simd.consumed src)).length := by
        rw [List.length_take_of_le (simd.consumed_le src)]
        exact simd.three_dvd src
      rw [simd.dst_eq] at hc
      exact .inr (inAlphabet_of_mem_encode hdvd c hc)
  rcases List.mem_append.mp hc with hc | hc
  · obtain ⟨turn, hturn, hc⟩ := List.mem_flatMap.mp hc
    rcases List.mem_append.mp hc with hc | hc
    · exact .inr (hbulk turn hturn c hc)
    · by_cases hnl : c = newline
      · exact .inl hnl
      · have hkept : c ∈ ((blockTurns simd src s).1.flatMap LoopTurn.code).filter (· != newline) :=
          List.mem_filter.mpr ⟨List.mem_flatMap.mpr ⟨turn, hturn, hc⟩, bne_iff_ne.mpr hnl⟩
        rw [hlookups] at hkept
        obtain ⟨i, hi, rfl⟩ := List.mem_map.mp hkept
        exact .inr (inAlphabet_encoding (blockIndices_inTable hp simd src i hi))
  · exact .inr (hlast c hc)

/-! ## The closing call and the line count -/

/-- Less the newlines, the closing call writes one character of the alphabet, if bits are pending,
and then only padding. -/
theorem base64EncodeBlockend_data {s : Base64EncodeState T} {q : List Bool} (hp : Pending s q) :
    ∃ data : List Byte, (base64EncodeBlockend s).codeOut.filter (· != newline) =
        data ++ List.replicate (closingLength s.step - data.length) pad ∧
      data.length = (if s.step = .stepA then 0 else 1) ∧ ∀ c ∈ data, inAlphabet c = true := by
  have hnl : Option.guard (· != newline) newline = none := rfl
  have hend : (lineEnd s.charsPerLine.toNat).filter (· != newline) = [] := by
    unfold lineEnd
    split <;> rfl
  have hsymbol : symbol (digit 6 q) ≠ newline := by
    intro heq
    have hvalue := value_symbol (digit 6 q)
    rw [heq, newline_not_alphabet] at hvalue
    cases hvalue
  have hclosing : (closing q).filter (· != newline) = closing q := by
    rw [List.filter_eq_self]
    intro c hc
    rw [bne_iff_ne]
    unfold closing at hc
    split at hc
    · simp at hc
    · rcases List.mem_cons.mp hc with rfl | hc
      · exact hsymbol
      · rw [List.eq_of_mem_replicate hc]
        decide
  rw [base64EncodeBlockend_spec hp (onLine_self s), List.filter_append, hend, List.append_nil,
    ← List.filterMap_eq_filter, breaker_filterMap hnl, List.filterMap_eq_filter, hclosing]
  cases hs : s.step <;> simp only [Pending, hs] at hp
  case stepA =>
    rw [hp]
    exact ⟨[], rfl, rfl, by simp⟩
  case stepB =>
    have hne : q ≠ [] := List.ne_nil_of_length_pos (by omega)
    refine ⟨[symbol (digit 6 q)], ?_, rfl, by simp⟩
    rw [closing, if_neg hne, hp.1]
    rfl
  case stepC =>
    have hne : q ≠ [] := List.ne_nil_of_length_pos (by omega)
    refine ⟨[symbol (digit 6 q)], ?_, rfl, by simp⟩
    rw [closing, if_neg hne, hp.1]
    rfl

/-- `CHECK_BREAK` keeps the count of a wrapped line within its width. -/
theorem checkBreak_stepcount_le {s : Base64EncodeState T} (hc : s.charsPerLine ≠ 0) :
    (checkBreak s).1.stepcount.toNat ≤ s.charsPerLine.toNat := by
  have hpos : 0 < s.charsPerLine.toNat := Nat.pos_of_ne_zero (mt toNat_eq_zero_iff.mp hc)
  have hlt := s.charsPerLine.isLt
  have h1 : (1 : T.SizeT).toNat = 1 := toNat_ofNat_of_lt (by decide)
  by_cases hfull : s.charsPerLine ≠ 0 ∧ s.stepcount ≥ s.charsPerLine
  · rw [checkBreak_of_full hfull]
    dsimp only
    rw [h1]
    exact hpos
  · rw [checkBreak_of_not_full hfull]
    have hroom : s.stepcount.toNat < s.charsPerLine.toNat := by
      apply Nat.lt_of_not_le
      intro hge
      exact hfull ⟨hc, BitVec.le_def.mpr hge⟩
    dsimp only
    rw [BitVec.toNat_add_of_lt (by omega), h1]
    exact hroom

/-- The count is within the width that the line was given. -/
def WithinLine (c : T.SizeT) (s : Base64EncodeState T) : Prop :=
  s.charsPerLine = c ∧ s.stepcount.toNat ≤ c.toNat

theorem WithinLine.checkBreak {c : T.SizeT} (hc : c ≠ 0) {s : Base64EncodeState T}
    (h : s.charsPerLine = c) : WithinLine c (checkBreak s).1 := by
  subst h
  exact ⟨checkBreak_charsPerLine s, checkBreak_stepcount_le hc⟩

theorem WithinLine.encodeFragment {c : T.SizeT} (hc : c ≠ 0) {s : Base64EncodeState T}
    (h : WithinLine c s) (f : Byte) : WithinLine c (encodeFragment s f).1 := by
  have h1 := WithinLine.checkBreak hc h.1
  have h2 := WithinLine.checkBreak hc h1.1
  cases hs : s.step
  case stepA =>
    simp only [Libb64.encodeFragment, hs, encodeStepA]
    exact h1
  case stepB =>
    simp only [Libb64.encodeFragment, hs, encodeStepB]
    exact h1
  case stepC =>
    simp only [Libb64.encodeFragment, hs, encodeStepC]
    exact h2

theorem WithinLine.blockend {c : T.SizeT} (hc : c ≠ 0) {s : Base64EncodeState T}
    (h : WithinLine c s) : WithinLine c (base64EncodeBlockend s).state := by
  have h1 := WithinLine.checkBreak hc h.1
  have h2 := WithinLine.checkBreak hc h1.1
  have h3 := WithinLine.checkBreak hc h2.1
  cases hs : s.step
  case stepA =>
    simp only [base64EncodeBlockend, hs]
    exact h
  case stepB =>
    simp only [base64EncodeBlockend, hs]
    exact h3
  case stepC =>
    simp only [base64EncodeBlockend, hs]
    exact h2

theorem WithinLine.block {c : T.SizeT} (hc : c ≠ 0) {s : Base64EncodeState T}
    (h : WithinLine c s) (simd : Base64EncodeBulkSimd) (src : List Byte) :
    WithinLine c (base64EncodeBlock simd src s).state := by
  obtain ⟨hsame, -⟩ := base64EncodeBlock_spec simd (Same.refl s) src
  have hslow : WithinLine c ((slowEncoder T).run s src).1 :=
    (slowEncoder T).run_invariant (fun t f ht => ht.encodeFragment hc f) h src
  exact ⟨hsame.charsPerLine.trans hslow.1, hsame.stepcount ▸ hslow.2⟩

/-- A block call or, for `none`, the closing call. -/
def callOp (call : Option EncodeCall) : EncodeOp T :=
  match call with
  | some call => .block call.simd call.plaintextIn
  | none => .blockend

theorem withinLine_of_calls {c : T.SizeT} (hc : c ≠ 0) (ops : List (EncodeOp T))
    (calls : List (Option EncodeCall)) : WithinLine c ((encodeOps T).run (base64InitEncodestate T)
      (ops ++ .init :: .setCharsPerLine c :: calls.map callOp)).1 := by
  rw [Transducer.run_append, Transducer.run_cons, Transducer.run_cons]
  generalize hs : (freshEncodestate c : Base64EncodeState T) = s
  have hfresh : WithinLine c s := by
    rw [← hs]
    exact ⟨rfl, by simp [freshEncodestate, base64InitEncodestate]⟩
  suffices hrun : WithinLine c ((encodeOps T).run s (calls.map callOp)).1 by
    subst hs
    exact hrun
  clear hs
  induction calls generalizing s with
  | nil => exact hfresh
  | cons call calls ih =>
    rw [List.map_cons, Transducer.run_cons]
    cases call with
    | none => exact ih _ (hfresh.blockend hc)
    | some call => exact ih _ (hfresh.block hc call.simd call.plaintextIn)

/-! ## The invariant -/

/-- What holds of an encoder state before any call: `result` is what its label says, so no call
looks a character up outside the table, a block call writes no other characters than newlines and
those of the alphabet, and the closing call puts `'='` where padding belongs. -/
structure EncoderInvariant (s : Base64EncodeState T) : Prop where
  stepB : s.step = .stepB → s.result.toNat ∈ [0, 16, 32, 48]
  stepC : s.step = .stepC → 4 ∣ s.result.toNat ∧ s.result.toNat ≤ 60
  indices : ∀ (simd : Base64EncodeBulkSimd) (src : List Byte), ∀ i ∈ blockIndices simd src s,
    0 ≤ i.toInt ∧ i.toInt ≤ 63
  block : ∀ (simd : Base64EncodeBulkSimd) (src : List Byte),
    ∀ c ∈ (base64EncodeBlock simd src s).codeOut, c = newline ∨ inAlphabet c = true
  blockendIndex : s.step ≠ .stepA → s.result.toNat ≤ 63
  closing : ∃ data : List Byte, (base64EncodeBlockend s).codeOut.filter (· != newline) =
      data ++ List.replicate (closingLength s.step - data.length) pad ∧
    data.length = (if s.step = .stepA then 0 else 1) ∧ ∀ c ∈ data, inAlphabet c = true

theorem Pending.invariant {s : Base64EncodeState T} {q : List Bool} (hp : Pending s q) :
    EncoderInvariant s where
  stepB hs := by
    simp only [Pending, hs] at hp
    obtain ⟨a, b, rfl⟩ := List.length_eq_two.mp hp.1
    rw [hp.2]
    cases a <;> cases b <;> decide
  stepC hs := by
    simp only [Pending, hs] at hp
    obtain ⟨a, q, rfl⟩ := List.exists_cons_of_length_pos (show 0 < q.length by omega)
    obtain ⟨b, c, d, rfl⟩ := List.length_eq_three.mp (Nat.succ.inj hp.1)
    rw [hp.2]
    cases a <;> cases b <;> cases c <;> cases d <;> decide
  indices simd src := blockIndices_inTable hp simd src
  block simd src := base64EncodeBlock_data hp simd src
  blockendIndex hs := by
    have hlt := (digit 6 q).isLt
    have hresult : s.result = held q := by
      cases h : s.step <;> simp only [Pending, h] at hp
      case stepA => exact absurd h hs
      case stepB => exact hp.2
      case stepC => exact hp.2
    rw [hresult, toNat_held]
    omega
  closing := base64EncodeBlockend_data hp

/-- **The state invariant** holds after any sequence of initialisations, assignments to
`chars_per_line`, block calls and closing calls; and where the width was set to a positive value
right after an initialisation and only calls followed, the count of the line is within it. -/
theorem encodeOps_invariant (T : Target) (ops : List (EncodeOp T)) (c : T.SizeT) (hc : c ≠ 0)
    (calls : List (Option EncodeCall)) :
    EncoderInvariant ((encodeOps T).run (base64InitEncodestate T) ops).1 ∧
      (let s := ((encodeOps T).run (base64InitEncodestate T)
        (ops ++ .init :: .setCharsPerLine c :: calls.map callOp)).1
      s.charsPerLine = c ∧ s.stepcount.toNat ≤ s.charsPerLine.toNat) := by
  obtain ⟨q, hp⟩ := exists_pending_of_ops ops
  have hline := withinLine_of_calls hc ops calls
  exact ⟨hp.invariant, hline.1, hline.1.symm ▸ hline.2⟩

/-- A byte, a closing call and another byte, in lines of one character. -/
theorem encodeOps_invariant_one :
    EncoderInvariant ((encodeOps i386).run (base64InitEncodestate i386)
        [.block encodeSimdNone [0x66], .blockend]).1 ∧
      (let s := ((encodeOps i386).run (base64InitEncodestate i386)
        ([.block encodeSimdNone [0x66], .blockend] ++ .init :: .setCharsPerLine 1 ::
          [some ⟨encodeSimdNone, [0xff]⟩, none, some ⟨encodeSimdNone, [0x80]⟩].map callOp)).1
      s.charsPerLine = 1 ∧ s.stepcount.toNat ≤ s.charsPerLine.toNat) :=
  encodeOps_invariant i386 [.block encodeSimdNone [0x66], .blockend] 1 (by decide)
    [some ⟨encodeSimdNone, [0xff]⟩, none, some ⟨encodeSimdNone, [0x80]⟩]

end Libb64
