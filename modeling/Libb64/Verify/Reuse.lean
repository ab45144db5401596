import Libb64.Verify.Streams

/-!
# One encoder object for many messages

A message goes through an encoder object as a stream or as block calls closed by `encode_end`. Only
the stream function resets the state behind it. What `encode_end` leaves, the label with its pending
bits and the count of the line, is the start of the next message, whose text is then not that of a
newly built encoder unless it happens to start clean (`messages_matchNew_iff`).
-/

namespace Libb64

open BitString Rfc4648 Lines

variable {T : Target}

/-- A message through an encoder object. -/
inductive Message where
  | stream (simd : Base64EncodeBulkSimd) (istreamIn : List Byte)
  | blocks (calls : List EncodeCall)

/-- The bytes of a message. -/
def Message.text : Message → List Byte
  | .stream _ istreamIn => istreamIn
  | .blocks calls => plaintextOf calls

/-- `encoder::encode` of one block after another. -/
def encoderBlocks (T : Target) : Transducer (Base64EncodeState T) EncodeCall Byte where
  step s call :=
    let r := encoderEncode call.simd call.plaintextIn s
    (r.state, r.codeOut.take r.returned)

/-- Messages one after another through an encoder object: whether each threw, and the text it
wrote. -/
def encoderMessages (T : Target) :
    Transducer (Encoder T × List (ReallocCall T)) Message (Bool × List Byte) where
  step s
    | .stream simd istreamIn =>
      let r := s.1.encodeStream simd s.2 istreamIn
      ((r.encoder, r.calls), [(r.thrown, r.ostreamOut)])
    | .blocks calls =>
      let (state, codeOut) := (encoderBlocks T).run s.1.state calls
      let r := base64EncodeBlockend state
      (({ s.1 with state := r.state }, s.2), [(false, codeOut ++ r.codeOut.take r.returned)])

/-- The message comes out as from a newly built encoder, the allocator's past being the same. -/
def Message.MatchesNew (b : EncoderBuilder T) (s : Encoder T × List (ReallocCall T))
    (msg : Message) : Prop :=
  ((encoderMessages T).step s msg).2 = ((encoderMessages T).step (b.build, s.2) msg).2

instance (b : EncoderBuilder T) (s : Encoder T × List (ReallocCall T)) (msg : Message) :
    Decidable (msg.MatchesNew b s) :=
  inferInstanceAs (Decidable (_ = _))

/-- The allocator and the buffer size let the message through; block calls need neither. -/
def Message.Completes (s : Encoder T × List (ReallocCall T)) : Message → Prop
  | .stream _ _ => s.1.cap ≠ 0 ∧ s.1.Granted s.2 (s.1.cap + 16)
  | .blocks _ => True

/-- No bits are pending, and on wrapped lines no line is begun, or nothing goes on it, or all of the
message does. -/
def Message.StartsClean (s : Base64EncodeState T) (msg : Message) : Prop :=
  s.step = .stepA ∧ (s.charsPerLine = 0 ∨ s.stepcount = 0 ∨ msg.text = [] ∨
    s.stepcount.toNat + 4 * ((msg.text.length + 2) / 3) ≤ s.charsPerLine.toNat)

/-- What a message leaves of the object that `b` built: everything but `step`, `result` and
`stepcount`, with bits pending that the label allows. -/
structure BuiltFrom (b : EncoderBuilder T) (e : Encoder T) : Prop where
  buffersize : e.buffersize = b.build.buffersize
  alloc : e.alloc = b.alloc
  charsPerLine : e.state.charsPerLine = b.charsPerLine
  pending : ∃ q, Pending e.state q

/-! ## One message -/

theorem encoderBlocks_run (s : Base64EncodeState T) (calls : List EncodeCall) :
    ∃ calls', plaintextOf calls' = plaintextOf calls ∧
      (encoderBlocks T).run s calls = (encodeCalls T).run s calls' := by
  induction calls generalizing s with
  | nil => exact ⟨[], rfl, rfl⟩
  | cons call calls ih =>
    obtain ⟨first, hplain, hstate, hcode, hret⟩ := encoderEncode_spec call.simd call.plaintextIn s
    obtain ⟨calls', hplain', hrun⟩ := ih ((encodeCalls T).run s first).1
    refine ⟨first ++ calls', ?_, ?_⟩
    · rw [plaintextOf, List.flatMap_append, plaintextOf, List.flatMap_cons, ← hplain]
      exact congrArg _ hplain'
    · have hstep : (encoderBlocks T).step s call = (encodeCalls T).run s first := by
        dsimp only [encoderBlocks]
        rw [hret, List.take_length, hcode, hstate]
      rw [Transducer.run_cons, Transducer.run_append, hstep, hrun]

section Step

variable {s : Encoder T × List (ReallocCall T)} {msg : Message}

/-- A message that completes is some block calls and the closing call from the object's state. -/
theorem step_of_completes (h : msg.Completes s) :
    ∃ calls, plaintextOf calls = msg.text ∧
      ((encoderMessages T).step s msg).2 = [(false, encodeFrom s.1.state calls)] := by
  cases msg with
  | stream simd istreamIn =>
    obtain ⟨hok, -, calls, hplain, hout⟩ := encodeStream_text simd h.1 h.2 istreamIn
    refine ⟨calls, hplain, ?_⟩
    dsimp only [encoderMessages]
    rw [hok, hout]
  | blocks blocks =>
    obtain ⟨calls, hplain, hrun⟩ := encoderBlocks_run s.1.state blocks
    refine ⟨calls, hplain, ?_⟩
    dsimp only [encoderMessages]
    rw [hrun]
    rfl

theorem step_of_not_completes (h : ¬msg.Completes s) :
    ((encoderMessages T).step s msg).1.1 = s.1 ∧
      ((encoderMessages T).step s msg).2 = [(true, [])] := by
  cases msg with
  | stream simd istreamIn =>
    obtain ⟨hthrown, -, hsame, hout⟩ := encodeStream_of_not_granted simd s.1 s.2 istreamIn h
    dsimp only [encoderMessages]
    rw [hthrown, hsame, hout]
    exact ⟨rfl, rfl⟩
  | blocks blocks => exact absurd trivial h

end Step

/-! ## The object between messages -/

theorem Pending.blockend {s : Base64EncodeState T} {q : List Bool} (h : Pending s q) :
    Pending (base64EncodeBlockend s).state q := by
  unfold Pending at *
  cases hs : s.step <;> simp only [hs] at h
  case stepA => simpa [base64EncodeBlockend, hs] using h
  case stepB => simpa [base64EncodeBlockend, hs] using h
  case stepC => simpa [base64EncodeBlockend, hs] using h

theorem base64EncodeLength_congr (n : T.SizeT) {s t : Base64EncodeState T}
    (h : s.charsPerLine = t.charsPerLine) : base64EncodeLength n s = base64EncodeLength n t := by
  unfold base64EncodeLength
  rw [h]

namespace BuiltFrom

variable {b : EncoderBuilder T} {e : Encoder T} {s : Encoder T × List (ReallocCall T)}

theorem build (b : EncoderBuilder T) : BuiltFrom b b.build :=
  ⟨rfl, rfl, rfl, [], pending_fresh b.charsPerLine⟩

/-- **One message** leaves an object that is still the builder's. -/
theorem step (h : BuiltFrom b s.1) (msg : Message) :
    BuiltFrom b ((encoderMessages T).step s msg).1.1 := by
  by_cases hcompletes : msg.Completes s
  swap
  · rw [(step_of_not_completes hcompletes).1]
    exact h
  cases msg with
  | stream simd istreamIn =>
    obtain ⟨-, hreset, -⟩ := encodeStream_text simd hcompletes.1 hcompletes.2 istreamIn
    dsimp only [encoderMessages]
    rw [hreset]
    exact ⟨h.buffersize, h.alloc, h.charsPerLine, [], pending_fresh _⟩
  | blocks blocks =>
    obtain ⟨calls, -, hrun⟩ := encoderBlocks_run s.1.state blocks
    obtain ⟨q, hq⟩ := h.pending
    have hline : OnLine s.1.state s.1.state.charsPerLine.toNat s.1.state.stepcount.toNat :=
      ⟨rfl, .inr rfl⟩
    obtain ⟨hpend, -, -⟩ := encodeCalls_run hq hline calls
    dsimp only [encoderMessages]
    rw [hrun]
    refine ⟨h.buffersize, h.alloc, ?_, _, hpend.blockend⟩
    dsimp only
    rw [blockend_charsPerLine, encodeCalls_charsPerLine]
    exact h.charsPerLine

theorem completes_iff (h : BuiltFrom b s.1) (msg : Message) :
    msg.Completes s ↔ msg.Completes (b.build, s.2) := by
  cases msg with
  | stream simd istreamIn =>
    have hwidth : s.1.state.charsPerLine = b.build.state.charsPerLine := h.charsPerLine
    have hcap : s.1.cap = b.build.cap := by
      unfold Encoder.cap
      rw [h.buffersize, base64EncodeLength_congr _ hwidth]
    unfold Message.Completes Encoder.Granted
    rw [hcap, h.alloc, h.buffersize]
    rfl
  | blocks blocks => exact Iff.rfl

end BuiltFrom

/-! ## Stale states -/

theorem newline_notMem_charactersOf (bits : List Bool) : newline ∉ charactersOf bits :=
  notMem_charactersOf (by decide) (by decide) bits

/-- Pending bits show in the number of characters, which is else a multiple of four. -/
theorem charactersOf_pending {q : List Bool} {s : Base64EncodeState T} (hq : Pending s q)
    {x : List Byte} (h : charactersOf (q ++ ofDigits x) = charactersOf (ofDigits x)) : q = [] := by
  have hlen := congrArg List.length h
  rw [length_charactersOf, length_charactersOf, List.length_append, length_ofDigits] at hlen
  cases hs : s.step <;> simp only [Pending, hs] at hq
  case stepA => exact hq
  case stepB =>
    rw [hq.1] at hlen
    split at hlen <;> split at hlen <;> omega
  case stepC =>
    rw [hq.1] at hlen
    split at hlen <;> split at hlen <;> omega

/-- **From which states a text comes out as from a fresh one.** -/
theorem encodeFrom_eq_fresh_iff {s : Base64EncodeState T} {q : List Bool} (hq : Pending s q)
    {calls calls' : List EncodeCall} {x : List Byte} (hcalls : plaintextOf calls = x)
    (hcalls' : plaintextOf calls' = x) :
    encodeFrom s calls = encodeFrom (freshEncodestate s.charsPerLine) calls' ↔
      s.step = .stepA ∧ (s.charsPerLine = 0 ∨ s.stepcount = 0 ∨ x = [] ∨
        s.stepcount.toNat + 4 * ((x.length + 2) / 3) ≤ s.charsPerLine.toNat) := by
  have hline : OnLine s s.charsPerLine.toNat s.stepcount.toNat := ⟨rfl, .inr rfl⟩
  have hfrom := encodeFrom_eq hq hline calls
  have hfresh := encodeFrom_eq (pending_fresh s.charsPerLine) (onLine_fresh s.charsPerLine) calls'
  rw [hcalls] at hfrom
  rw [hcalls', List.nil_append] at hfresh
  dsimp only at hfrom hfresh
  rw [hfrom, hfresh, List.append_left_inj, ← charactersOf, ← charactersOf]
  have hencode : charactersOf (ofDigits x) = encode x := (encode_eq x).symm
  have hiff := breaker_run_eq_iff (c := s.charsPerLine.toNat)
    (newline_notMem_charactersOf (ofDigits x)) s.stepcount.toNat
  rw [hencode, toNat_eq_zero_iff, toNat_eq_zero_iff, encode_eq_nil, length_encode] at hiff
  rw [hencode]
  constructor
  · intro h
    have hchars := congrArg (List.filter (· ≠ newline)) h
    rw [breaker_filter_ne (newline_notMem_charactersOf _), ← hencode,
      breaker_filter_ne (newline_notMem_charactersOf _)] at hchars
    obtain rfl := charactersOf_pending hq hchars
    rw [List.nil_append, hencode] at h
    exact ⟨step_of_pending_nil hq, hiff.mp h⟩
  · rintro ⟨hs, hclean⟩
    have hnil : q = [] := by simpa [Pending, hs] using hq
    rw [hnil, List.nil_append, hencode]
    exact hiff.mpr hclean

/-- A message comes out as from a newly built encoder exactly if it starts clean. -/
theorem matchesNew_iff {b : EncoderBuilder T} {s : Encoder T × List (ReallocCall T)}
    (h : BuiltFrom b s.1) (msg : Message) :
    msg.MatchesNew b s ↔ (msg.Completes s → msg.StartsClean s.1.state) := by
  have hnew := h.completes_iff msg
  unfold Message.MatchesNew
  by_cases hcompletes : msg.Completes s
  swap
  · rw [(step_of_not_completes hcompletes).2, (step_of_not_completes (mt hnew.mpr hcompletes)).2]
    exact iff_of_true rfl fun hno => absurd hno hcompletes
  obtain ⟨calls, hcalls, hout⟩ := step_of_completes hcompletes
  obtain ⟨calls', hcalls', hout'⟩ := step_of_completes (hnew.mp hcompletes)
  obtain ⟨q, hq⟩ := h.pending
  have hfresh : b.build.state = freshEncodestate s.1.state.charsPerLine := by
    rw [h.charsPerLine]
    rfl
  have hiff := encodeFrom_eq_fresh_iff hq hcalls hcalls'
  rw [← hfresh] at hiff
  rw [hout, hout', List.cons.injEq, Prod.mk.injEq]
  simp only [true_and, and_true]
  exact hiff.trans ⟨fun hclean _ => hclean, fun hclean => hclean hcompletes⟩

/-- **Every message of a run comes out as from a newly built encoder exactly if every message
starts clean**, whatever builder, allocator and messages; one that throws starts nothing. -/
theorem messages_matchNew_iff (T : Target) (b : EncoderBuilder T) (calls : List (ReallocCall T))
    (msgs : List Message) :
    (encoderMessages T).Along (fun s msg => msg.MatchesNew b s) (b.build, calls) msgs ↔
      (encoderMessages T).Along (fun s msg => msg.Completes s → msg.StartsClean s.1.state)
        (b.build, calls) msgs :=
  (encoderMessages T).along_congr (I := fun s => BuiltFrom b s.1) (fun _ msg hs => hs.step msg)
    (fun _ msg hs => matchesNew_iff hs msg) (BuiltFrom.build b) msgs

/-- **A stale carry**: after the message `f`, closed by `encode_end`, the message `foo` does not
come out as it should. -/
theorem messages_not_matchNew :
    let b : EncoderBuilder x86_64 :=
      ⟨65536, 0, defaultCppAllocator fun calls _ => some (calls.length + 1)⟩
    ¬(encoderMessages x86_64).Along (fun s msg => msg.MatchesNew b s) (b.build, [])
      [.blocks [⟨encodeSimdNone, "f".toList.map charCode⟩],
        .blocks [⟨encodeSimdNone, "foo".toList.map charCode⟩]] := by
  rintro b ⟨-, hsecond, -⟩
  revert hsecond
  decide +kernel

end Libb64
