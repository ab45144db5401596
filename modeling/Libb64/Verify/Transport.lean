import Libb64.Verify.EncodeInvariant
import Libb64.Verify.SimdBlocks

/-!
# A text on its way

A sender encodes block by block, may set another line width at any time, and closes the text in the
end. A carrier holds what was written and not yet read; on the way it may put in, change and take
out anything outside the alphabet. A receiver, possibly on another target, decodes what has arrived,
in pieces of any size. The three take turns in any order.

One equation of bit strings holds at every moment (`Transport.Balanced`). It says that what has been
received is always the beginning of what was sent, that with an empty carrier at most one byte is
missing, and that nothing is missing once the text is closed (`transport_prefix`).
-/

namespace Libb64

open BitString Rfc4648 Lines

variable {T T' : Target}

/-- A sender on `T`, a receiver on `T'`, and the carrier between them; `sent` and `received` are the
bytes passed in and got out so far. -/
structure Transport (T T' : Target) where
  encoder : Base64EncodeState T
  decoder : Base64DecodeState
  carrier : List Byte
  sent : List Byte
  received : List Byte
  closed : Bool

inductive TransportEvent (T : Target) where
  | setCharsPerLine (c : T.SizeT)
  | send (call : EncodeCall)
  | close
  | alter (carrier : List Byte)
  | deliver (n : Nat) (simd : Option Base64DecodeBulkSimd) (contents : Nat → Byte)

def Transport.init (T T' : Target) : Transport T T' where
  encoder := base64InitEncodestate T
  decoder := base64InitDecodestate
  carrier := []
  sent := []
  received := []
  closed := false

/-- One event; nothing is sent after the text was closed, and the carrier leaves the alphabet
characters alone. -/
def Transport.step (s : Transport T T') : TransportEvent T → Option (Transport T T')
  | .setCharsPerLine c => some { s with encoder := { s.encoder with charsPerLine := c } }
  | .send call =>
    if s.closed then none
    else
      let r := base64EncodeBlock call.simd call.plaintextIn s.encoder
      some { s with
        encoder := r.state
        carrier := s.carrier ++ r.codeOut.take r.returned
        sent := s.sent ++ call.plaintextIn }
  | .close =>
    if s.closed then none
    else
      let r := base64EncodeBlockend s.encoder
      some { s with
        encoder := r.state
        carrier := s.carrier ++ r.codeOut.take r.returned
        closed := true }
  | .alter carrier =>
    if carrier.filter inAlphabet = s.carrier.filter inAlphabet then some { s with carrier }
    else none
  | .deliver n simd contents =>
    let r := DecodeCall.block T' ⟨simd, s.carrier.take n, contents⟩ s.decoder
    some { s with
      decoder := r.state
      carrier := s.carrier.drop n
      received := s.received ++ r.plaintextOut.slice 0 r.returned }

def Transport.run (s : Transport T T') : List (TransportEvent T) → Option (Transport T T')
  | [] => some s
  | event :: events => (s.step event).bind fun s' => s'.run events

/-- The bits sent are those received, those the decoder carries, those under way and those the
encoder has pending; the closing call fills up with `z` zeros. -/
structure Transport.Balanced (s : Transport T T') (d q : List Bool) (z : Nat) : Prop where
  carries : Carriable d
  decoder : s.decoder = carried d
  bits_eq : ofDigits s.received ++ d ++ bits s.carrier ++ q =
    ofDigits s.sent ++ List.replicate z false
  opened : s.closed = false → Pending s.encoder q ∧ z = 0
  closed : s.closed = true → q = [] ∧ z < 6

/-! ## What the calls do to the bits -/

/-- A block call passes the pending bits and the text on, at any width. -/
theorem Pending.bits_block {s : Base64EncodeState T} {q : List Bool} (hp : Pending s q)
    (call : EncodeCall) :
    ∃ q', Pending (base64EncodeBlock call.simd call.plaintextIn s).state q' ∧
      bits (base64EncodeBlock call.simd call.plaintextIn s).codeOut ++ q' =
        q ++ ofDigits call.plaintextIn := by
  obtain ⟨hsame, hcode, -⟩ :=
    base64EncodeBlock_spec call.simd (Same.refl s) call.plaintextIn
  obtain ⟨hp', -, hout⟩ := slowEncoder_run hp (onLine_self s) call.plaintextIn
  refine ⟨_, hp'.of_same hsame, ?_⟩
  have hsextets : sextets (base64EncodeBlock call.simd call.plaintextIn s).codeOut =
      groups 6 (q ++ ofDigits call.plaintextIn) := by
    rw [hcode, slowEncodeBlock]
    dsimp only
    rw [hout, sextets, breaker_filterMap newline_not_alphabet]
    exact sextets_map_symbol _
  rw [bits, hsextets]
  exact ofDigits_groups_append_rest (by omega) _

/-- The closing call writes the pending bits and fills the last character up with zeros. -/
theorem Pending.bits_blockend {s : Base64EncodeState T} {q : List Bool} (hp : Pending s q) :
    ∃ z, z < 6 ∧ bits (base64EncodeBlockend s).codeOut = q ++ List.replicate z false := by
  have hend : sextets (lineEnd s.charsPerLine.toNat) = [] := by
    unfold lineEnd
    split
    · rfl
    · simp [sextets, newline_not_alphabet]
  have hsextets : sextets (base64EncodeBlockend s).codeOut = sextets (closing q) := by
    rw [base64EncodeBlockend_spec hp (onLine_self s), sextets_append, hend, List.append_nil,
      sextets, breaker_filterMap newline_not_alphabet]
    rfl
  rw [bits, hsextets, closing]
  split
  · next hnil => exact ⟨0, by omega, by simp [hnil]⟩
  · next hne =>
    have hpos : 0 < q.length := List.length_pos_iff.mpr hne
    have hlt := hp.length_lt
    refine ⟨6 - q.length, by omega, ?_⟩
    rw [sextets_cons_of_some (value_symbol _), sextets_replicate_pad, ofDigits_cons, ofDigits_nil,
      List.append_nil, ofDigit_digit_of_length_le (Nat.le_of_lt hlt)]

/-- A decode call splits the bits it has into bytes and a new carry. -/
theorem DecodeCall.bits_block (T : Target) {d : List Bool} (hd : Carriable d) (call : DecodeCall) :
    let r := call.block T (carried d)
    ∃ d', Carriable d' ∧ r.state = carried d' ∧
      ofDigits (r.plaintextOut.slice 0 r.returned) ++ d' = d ++ bits call.codeIn := by
  have hspec := call.block_spec T hd
  refine ⟨_, hd.rest call.codeIn, hspec.state, ?_⟩
  rw [hspec.output.2]
  exact ofDigits_groups_append_rest (by omega) _

/-! ## Every moment -/

section Moments

variable {s s' : Transport T T'} {d q : List Bool} {z : Nat}

/-- **One event** keeps the balance. -/
theorem Transport.Balanced.step (h : s.Balanced d q z) {event : TransportEvent T}
    (hstep : s.step event = some s') : ∃ d' q' z', s'.Balanced d' q' z' := by
  obtain ⟨hd, hdec, hbits, hopen, hclosed⟩ := h
  cases event with
  | setCharsPerLine c =>
    cases hstep
    exact ⟨d, q, z, hd, hdec, hbits, hopen, hclosed⟩
  | send call =>
    simp only [Transport.step, base64EncodeBlock_take] at hstep
    split at hstep
    · cases hstep
    next hc =>
    cases hstep
    obtain ⟨hp, rfl⟩ := hopen (Bool.eq_false_iff.mpr hc)
    obtain ⟨q', hp', hq'⟩ := hp.bits_block call
    refine ⟨d, q', 0, hd, hdec, ?_, fun _ => ⟨hp', rfl⟩, fun h => absurd h hc⟩
    rw [List.replicate_zero, List.append_nil] at hbits ⊢
    rw [bits_append, ← List.append_assoc, List.append_assoc _ _ q', hq', ← List.append_assoc,
      hbits, ofDigits_append]
  | close =>
    simp only [Transport.step, base64EncodeBlockend_take] at hstep
    split at hstep
    · cases hstep
    next hc =>
    cases hstep
    obtain ⟨hp, rfl⟩ := hopen (Bool.eq_false_iff.mpr hc)
    obtain ⟨z', hz', hq'⟩ := hp.bits_blockend
    refine ⟨d, [], z', hd, hdec, ?_, Bool.noConfusion, fun _ => ⟨rfl, hz'⟩⟩
    rw [List.replicate_zero, List.append_nil] at hbits
    rw [List.append_nil, bits_append, hq', ← List.append_assoc, ← List.append_assoc, hbits]
  | alter carrier =>
    simp only [Transport.step] at hstep
    split at hstep
    · next hsame =>
      cases hstep
      have hcarrier : bits carrier = bits s.carrier := by
        rw [bits, ← sextets_filter, hsame, sextets_filter, bits]
      exact ⟨d, q, z, hd, hdec, by rwa [hcarrier], hopen, hclosed⟩
    · cases hstep
  | deliver n simd contents =>
    cases hstep
    obtain ⟨d', hd', hstate, hout⟩ :=
      DecodeCall.bits_block T' hd ⟨simd, s.carrier.take n, contents⟩
    rw [← hdec] at hstate hout
    refine ⟨d', q, z, hd', hstate, ?_, hopen, hclosed⟩
    have hcarrier : bits s.carrier = bits (s.carrier.take n) ++ bits (s.carrier.drop n) := by
      rw [← bits_append, List.take_append_drop]
    rw [hcarrier, ← List.append_assoc, List.append_assoc _ d, ← hout] at hbits
    rw [ofDigits_append, List.append_assoc _ _ d', hbits]

theorem Transport.Balanced.run (h : s.Balanced d q z) {events : List (TransportEvent T)}
    (hrun : s.run events = some s') : ∃ d' q' z', s'.Balanced d' q' z' := by
  induction events generalizing s d q z with
  | nil =>
    cases hrun
    exact ⟨d, q, z, h⟩
  | cons event events ih =>
    obtain ⟨s₁, hstep, hrun⟩ := Option.bind_eq_some_iff.mp hrun
    obtain ⟨d₁, q₁, z₁, h₁⟩ := h.step hstep
    exact ih h₁ hrun

theorem Transport.Balanced.init (T T' : Target) : (Transport.init T T').Balanced [] [] 0 where
  carries := .inl rfl
  decoder := carried_nil.symm
  bits_eq := rfl
  opened _ := ⟨rfl, rfl⟩
  closed h := by cases h

/-- The alphabet characters under way. -/
def Transport.underWay (s : Transport T T') : Nat := s.carrier.countP inAlphabet

/-- What the balance says about the bytes. -/
theorem Transport.Balanced.bytes (h : s.Balanced d q z) :
    s.received <+: s.sent ∧ 8 * s.sent.length ≤ 8 * s.received.length + 6 * s.underWay + 10 ∧
      (s.closed = true → s.underWay = 0 → s.received = s.sent) := by
  obtain ⟨hd, -, hbits, hopen, hclosed⟩ := h
  have hdlen : d.length ≤ 6 := by
    unfold Carriable at hd
    omega
  have hcases : q.length ≤ 4 ∧ z < 6 := by
    cases hc : s.closed with
    | false =>
      obtain ⟨hp, rfl⟩ := hopen hc
      refine ⟨?_, by omega⟩
      unfold Pending at hp
      split at hp
      · simp [hp]
      · omega
      · omega
    | true =>
      obtain ⟨rfl, hz⟩ := hclosed hc
      exact ⟨Nat.zero_le 4, hz⟩
  have hgroups := congrArg (groups 8) hbits
  have hfill : groups 8 (List.replicate z false) = [] := by
    apply groups_of_lt
    rw [List.length_replicate]
    omega
  rw [List.append_assoc, List.append_assoc, groups_ofDigits_append (by omega),
    groups_ofDigits_append (by omega), hfill, List.append_nil] at hgroups
  have hlen := congrArg List.length hbits
  simp only [List.length_append, length_ofDigits, length_bits, List.length_replicate,
    length_sextets] at hlen
  refine ⟨⟨_, hgroups⟩, ?_, fun hc hempty => ?_⟩
  · rw [underWay]
    omega
  · obtain ⟨rfl, -⟩ := hclosed hc
    have hnone : bits s.carrier = [] := by
      rw [← List.length_eq_zero_iff, length_bits, length_sextets]
      rw [underWay] at hempty
      omega
    rw [hnone, List.append_nil, List.append_nil, groups_of_lt (by omega), List.append_nil]
      at hgroups
    exact hgroups

/-- Once the text is closed, delivering all of the carrier completes it. -/
theorem Transport.Balanced.drain (h : s.Balanced d q z) (hc : s.closed = true) :
    ∃ s', s.step (.deliver s.carrier.length none fun _ => 0) = some s' ∧ s'.sent = s.sent ∧
      s'.received = s.sent := by
  obtain ⟨s', hstep⟩ : ∃ s', s.step (.deliver s.carrier.length none fun _ => 0) = some s' :=
    ⟨_, rfl⟩
  obtain ⟨d', q', z', h'⟩ := h.step hstep
  cases hstep
  refine ⟨_, rfl, rfl, ?_⟩
  obtain ⟨-, -, hall⟩ := h'.bytes
  refine hall hc ?_
  rw [underWay, List.drop_length]
  rfl

end Moments

/-! ## Every run -/

/-- **What arrives is what was sent**, at every moment of every run: a beginning of it, all but one
byte if no alphabet character is under way, and all of it once the text is closed as well. From
every moment the run can come to that end. -/
theorem transport_prefix (T T' : Target) (events : List (TransportEvent T)) (s : Transport T T')
    (h : (Transport.init T T').run events = some s) :
    s.received <+: s.sent ∧
      (s.underWay = 0 → s.sent.length ≤ s.received.length + 1) ∧
      (s.closed = true → s.underWay = 0 → s.received = s.sent) ∧
      ∃ events' s', s.run events' = some s' ∧ s'.sent = s.sent ∧ s'.received = s.sent := by
  obtain ⟨d, q, z, hbalanced⟩ := (Transport.Balanced.init T T').run h
  obtain ⟨hbegin, hlag, hall⟩ := hbalanced.bytes
  refine ⟨hbegin, fun hempty => ?_, hall, ?_⟩
  · rw [hempty] at hlag
    omega
  · cases hc : s.closed with
    | true =>
      obtain ⟨s', hstep, hsent, hreceived⟩ := hbalanced.drain hc
      refine ⟨[.deliver s.carrier.length none fun _ => 0], s', ?_, hsent, hreceived⟩
      rw [Transport.run, hstep]
      rfl
    | false =>
      obtain ⟨s₁, hclose, hsent₁, hc₁⟩ : ∃ s₁, s.step .close = some s₁ ∧ s₁.sent = s.sent ∧
          s₁.closed = true := by
        simp [Transport.step, hc]
      obtain ⟨d₁, q₁, z₁, h₁⟩ := hbalanced.step hclose
      obtain ⟨s', hstep, hsent, hreceived⟩ := h₁.drain hc₁
      refine ⟨[.close, .deliver s₁.carrier.length none fun _ => 0], s', ?_,
        hsent.trans hsent₁, hreceived.trans hsent₁⟩
      rw [Transport.run, hclose, Option.bind_some, Transport.run, hstep]
      rfl

/-- A text that is cut in the middle of groups, gets a line width on the way and hyphens in the
carrier, with the receiver one byte behind before the end. -/
theorem transport_prefix_hyphens :
    let events : List (TransportEvent i386) :=
      [.send ⟨encodeSimdNone, "fo".toList.map charCode⟩, .setCharsPerLine 3,
        .alter ("Z-m".toList.map charCode), .deliver 2 none fun _ => 7,
        .send ⟨encodeSimdNone, "ob".toList.map charCode⟩, .close]
    ∃ s, (Transport.init i386 x86_64).run events = some s ∧ s.received <+: s.sent ∧
      (s.underWay = 0 → s.sent.length ≤ s.received.length + 1) ∧
      (s.closed = true → s.underWay = 0 → s.received = s.sent) ∧
      ∃ events' s', s.run events' = some s' ∧ s'.sent = s.sent ∧ s'.received = s.sent := by
  intro events
  have hsome : ((Transport.init i386 x86_64).run events).isSome := by decide +kernel
  obtain ⟨s, hs⟩ := Option.isSome_iff_exists.mp hsome
  exact ⟨s, hs, transport_prefix i386 x86_64 events s hs⟩

end Libb64
