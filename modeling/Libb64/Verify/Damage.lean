import Libb64.Verify.RoundTrip
import Libb64.Verify.Streams
import Mathlib.Data.BitVec
import Mathlib.Data.Set.Card

/-!
# Texts as no encoder wrote them

The decoder takes any text. A text that is damaged in one place decodes to the same bytes before it
and, if the number of alphabet characters changes by a multiple of four, to the same bytes behind it
(`decodeCalls_damaged`), so one character in place of another changes two bytes at most
(`decodeCalls_changed`). Two encodings one after the other, as they are after a file was appended
to, decode to both plaintexts only if the first ended on a group or the second is all zeros
(`decodeCalls_appended_iff`). And as the decoder asks neither for padding nor for zeros in the bits
that no byte uses, a number of texts decode to the same bytes (`ncard_decodesTo`).
-/

namespace Libb64

open BitString Rfc4648 Lines

variable {T : Target}

/-! ## Damage in one place -/

theorem decode_damaged {before after damage damage' : List Byte} {j : Nat}
    (hcount : damage'.countP inAlphabet = damage.countP inAlphabet + 4 * j) :
    let r := decode (before ++ damage ++ after)
    let r' := decode (before ++ damage' ++ after)
    r'.length = r.length + 3 * j ∧
      (∀ i, 8 * i + 8 ≤ 6 * before.countP inAlphabet → r'[i]? = r[i]?) ∧
      ∀ i, 6 * (before ++ damage).countP inAlphabet ≤ 8 * i → r'[i + 3 * j]? = r[i]? := by
  have hdecode : ∀ t, decode t = groups 8 (bits t) := fun t => rfl
  have hlen : (bits (before ++ damage')).length =
      (bits (before ++ damage)).length + 8 * (3 * j) := by
    rw [length_bits, length_bits, length_sextets, length_sextets, List.countP_append,
      List.countP_append, hcount]
    omega
  simp only [hdecode, bits_append _ after]
  refine ⟨?_, fun i hi => ?_, fun i hi => ?_⟩
  · rw [length_groups, length_groups, List.length_append, List.length_append, hlen]
    omega
  · rw [bits_append, bits_append, List.append_assoc, List.append_assoc]
    apply getElem?_groups_left (by omega)
    rw [length_bits, length_sextets]
    exact hi
  · apply getElem?_groups_right (by omega) hlen
    rw [length_bits, length_sextets]
    exact hi

/-- **Damage in one place** of a text: the bytes before it stay, and those behind it too, if the
number of alphabet characters there grows by a multiple of four. -/
theorem decodeCalls_damaged (T T' : Target) (calls calls' : List DecodeCall)
    (before after damage damage' : List Byte) (j : Nat)
    (h : codeOf calls = before ++ damage ++ after)
    (h' : codeOf calls' = before ++ damage' ++ after)
    (hcount : damage'.countP inAlphabet = damage.countP inAlphabet + 4 * j) :
    let r := ((decodeCalls T).run base64InitDecodestate calls).2
    let r' := ((decodeCalls T').run base64InitDecodestate calls').2
    r'.length = r.length + 3 * j ∧
      (∀ i, 8 * i + 8 ≤ 6 * before.countP inAlphabet → r'[i]? = r[i]?) ∧
      ∀ i, 6 * (before ++ damage).countP inAlphabet ≤ 8 * i → r'[i + 3 * j]? = r[i]? := by
  rw [decodeCalls_run, decodeCalls_run, h, h']
  exact decode_damaged hcount

/-- The second of four characters is replaced by five and a newline. -/
theorem decodeCalls_damaged_five :
    let calls : List DecodeCall := [⟨none, "Zm9v".toList.map charCode, fun _ => 0⟩]
    let calls' : List DecodeCall := [⟨some decodeSimdNone, "Z01\n".toList.map charCode, fun _ => 7⟩,
      ⟨none, "2349v".toList.map charCode, fun _ => 0⟩]
    let r := ((decodeCalls i386).run base64InitDecodestate calls).2
    let r' := ((decodeCalls x86_64).run base64InitDecodestate calls').2
    r'.length = r.length + 3 * 1 ∧
      (∀ i, 8 * i + 8 ≤ 6 * ("Z".toList.map charCode).countP inAlphabet → r'[i]? = r[i]?) ∧
      ∀ i, 6 * ("Z".toList.map charCode ++ "m".toList.map charCode).countP inAlphabet ≤ 8 * i →
        r'[i + 3 * 1]? = r[i]? :=
  decodeCalls_damaged i386 x86_64 _ _ ("Z".toList.map charCode) ("9v".toList.map charCode)
    ("m".toList.map charCode) ("01\n234".toList.map charCode) 1 (by decide) (by decide)
    (by decide +kernel)

/-- **A changed character**: one alphabet character in place of another changes at most the one or
two bytes that its bits belong to. -/
theorem decodeCalls_changed (T T' : Target) (calls calls' : List DecodeCall)
    (before after : List Byte) (c c' : Byte) (h : codeOf calls = before ++ [c] ++ after)
    (h' : codeOf calls' = before ++ [c'] ++ after) (hc : inAlphabet c = true)
    (hc' : inAlphabet c' = true) :
    let first := 6 * before.countP inAlphabet
    let r := ((decodeCalls T).run base64InitDecodestate calls).2
    let r' := ((decodeCalls T').run base64InitDecodestate calls').2
    r'.length = r.length ∧ ∀ i, r'[i]? ≠ r[i]? → i = first / 8 ∨ i = (first + 5) / 8 := by
  have hcount : [c'].countP inAlphabet = [c].countP inAlphabet + 4 * 0 := by simp [hc, hc']
  obtain ⟨hlen, hbefore, hbehind⟩ := @decode_damaged before after [c] [c'] 0 hcount
  dsimp only
  rw [decodeCalls_run, decodeCalls_run, h, h']
  refine ⟨hlen, fun i hi => ?_⟩
  have hfirst : 6 * before.countP inAlphabet < 8 * i + 8 :=
    Nat.lt_of_not_le fun hle => hi (hbefore i hle)
  have hlast : 8 * i < 6 * before.countP inAlphabet + 6 := by
    apply Nat.lt_of_not_le
    intro hle
    refine hi (hbehind i ?_)
    rw [List.countP_append, List.countP_singleton, if_pos hc]
    omega
  omega

/-! ## Encodings one after the other -/

/-- The bits that the encoder fills up with. -/
def fillBits (x : List Byte) : Nat := (6 - 8 * x.length % 6) % 6

theorem bits_encode (x : List Byte) :
    bits (encode x) = ofDigits x ++ List.replicate (fillBits x) false := by
  obtain ⟨k, hk, hpadded⟩ := ofDigits_padded (w := 6) (by omega) (ofDigits x)
  have hlen := congrArg List.length hpadded
  rw [length_ofDigits, List.length_append, List.length_replicate, length_ofDigits] at hlen
  have hfill : k = fillBits x := by
    unfold fillBits
    omega
  rw [bits, sextets_encode, hpadded, hfill]

/-- **When two encodings decode to both plaintexts.** -/
theorem decode_appended_iff (x y : List Byte) :
    decode (encode x ++ encode y) = x ++ y ↔
      3 ∣ x.length ∨ (∀ b ∈ y, b = 0) ∧ ¬(x.length % 3 = 1 ∧ y.length % 3 = 1) := by
  have hbits : decode (encode x ++ encode y) = x ++ groups 8 (List.replicate (fillBits x) false ++
      (ofDigits y ++ List.replicate (fillBits y) false)) := by
    show groups 8 (bits (encode x ++ encode y)) = _
    rw [bits_append, bits_encode, bits_encode, List.append_assoc,
      groups_ofDigits_append (by omega)]
  rw [hbits, List.append_cancel_left_eq]
  by_cases hthree : 3 ∣ x.length
  · have hfill : fillBits x = 0 := by
      unfold fillBits
      omega
    have hrest : groups 8 (List.replicate (fillBits y) false) = [] := by
      apply groups_of_lt
      rw [List.length_replicate, fillBits]
      omega
    rw [hfill, List.replicate_zero, List.nil_append, groups_ofDigits_append (by omega), hrest,
      List.append_nil]
    exact iff_of_true rfl (.inl hthree)
  rw [or_iff_right hthree]
  by_cases hboth : x.length % 3 = 1 ∧ y.length % 3 = 1
  · -- the bits filled up with make one more byte
    refine iff_of_false (fun h => ?_) fun h => h.2 hboth
    have hlen := congrArg List.length h
    simp only [length_groups, List.length_append, List.length_replicate, length_ofDigits,
      fillBits] at hlen
    omega
  · have hfill : 0 < fillBits x ∧ fillBits x + fillBits y < 8 := by
      unfold fillBits
      omega
    have hlen : (List.replicate (fillBits x) false ++
        (ofDigits y ++ List.replicate (fillBits y) false)).length / 8 = y.length := by
      simp only [List.length_append, List.length_replicate, length_ofDigits]
      omega
    have hcut : (List.replicate (fillBits x) false ++
        (ofDigits y ++ List.replicate (fillBits y) false)).take (8 * y.length) =
          (List.replicate (fillBits x) false ++ ofDigits y).take (ofDigits y).length := by
      rw [length_ofDigits, ← List.append_assoc, List.take_append_of_le_length]
      rw [List.length_append, length_ofDigits]
      omega
    rw [groups_eq_iff (by omega) hlen, hcut, take_zeros_append_iff hfill.1, length_ofDigits,
      ofDigits_eq_zeros_iff (by omega), and_iff_left hboth]

/-- **An encoder's text behind another's**, on any targets, at any line widths and with anything
outside the alphabet put in or taken out. -/
theorem decodeCalls_appended_iff (T T' T'' : Target) (c : T.SizeT) (c' : T'.SizeT)
    (first second : List EncodeCall) (decodes : List DecodeCall)
    (h : (codeOf decodes).filter inAlphabet =
      (encodeSession c first ++ encodeSession c' second).filter inAlphabet) :
    ((decodeCalls T'').run base64InitDecodestate decodes).2 =
        plaintextOf first ++ plaintextOf second ↔
      3 ∣ (plaintextOf first).length ∨ (∀ b ∈ plaintextOf second, b = 0) ∧
        ¬((plaintextOf first).length % 3 = 1 ∧ (plaintextOf second).length % 3 = 1) := by
  have hs : sextets (codeOf decodes) =
      sextets (encode (plaintextOf first) ++ encode (plaintextOf second)) := by
    rw [← sextets_filter, h, sextets_filter, encodeSession_eq, encodeSession_eq, sextets_append,
      sextets_append, sextets_layout, sextets_layout]
  rw [decodeCalls_run, decode, hs, ← decode]
  exact decode_appended_iff _ _

/-- One byte, and two zeros in a wrapped text, decoded in two calls. -/
theorem decodeCalls_appended_iff_zeros :
    let first : List EncodeCall := [⟨encodeSimdNone, "f".toList.map charCode⟩]
    let second : List EncodeCall := [⟨encodeSimdNone, [0, 0]⟩]
    ((decodeCalls x86_64).run base64InitDecodestate
        [⟨none, "ZgA".toList.map charCode, fun _ => 0⟩,
          ⟨none, "AA".toList.map charCode, fun _ => 0⟩]).2 =
        plaintextOf first ++ plaintextOf second ↔
      3 ∣ (plaintextOf first).length ∨ (∀ b ∈ plaintextOf second, b = 0) ∧
        ¬((plaintextOf first).length % 3 = 1 ∧ (plaintextOf second).length % 3 = 1) :=
  decodeCalls_appended_iff i386 x86_64 x86_64 0 2 _ _ _ (by decide +kernel)

/-! ## Texts for the same bytes -/

theorem ncard_bits (m : Nat) : {l : List Bool | l.length = m}.ncard = 2 ^ m := by
  have hrange : {l : List Bool | l.length = m} = Set.range (ofDigit : BitVec m → List Bool) := by
    ext l
    constructor
    · intro hl
      refine ⟨digit m l, ?_⟩
      rw [ofDigit_digit_of_le (Nat.le_of_eq hl.symm), List.take_of_length_le (Nat.le_of_eq hl)]
    · rintro ⟨d, rfl⟩
      exact length_ofDigit d
  have hcard : Nat.card (BitVec m) = 2 ^ m := by
    rw [Nat.card_congr ⟨BitVec.toFin, BitVec.ofFin, fun _ => rfl, fun _ => rfl⟩, Nat.card_fin]
  rw [hrange, ← Nat.card_coe_set_eq, Nat.card_range_of_injective fun _ _ => ofDigit_injective,
    hcard]

/-- The text of alphabet characters that spells the bits of `x` and some more. -/
def textOf (x : List Byte) (l : List Bool) : List Byte := (groups 6 (ofDigits x ++ l)).map symbol

/-- The bits that may be left over behind the bytes of `x`. -/
def leftovers (x : List Byte) : Set (List Bool) :=
  {l | l.length < 8 ∧ 6 ∣ 8 * x.length + l.length}

theorem bits_textOf {x : List Byte} {l : List Bool} (hl : l ∈ leftovers x) :
    bits (textOf x l) = ofDigits x ++ l := by
  have hrest : rest 6 (ofDigits x ++ l) = [] := by
    rw [← List.length_eq_zero_iff, length_rest, List.length_append, length_ofDigits]
    exact Nat.mod_eq_zero_of_dvd hl.2
  have hsplit := ofDigits_groups_append_rest (w := 6) (by omega) (ofDigits x ++ l)
  rw [hrest, List.append_nil] at hsplit
  rw [bits, textOf, sextets_map_symbol, hsplit]

theorem decodesTo_eq (x : List Byte) :
    {t | (∀ c ∈ t, inAlphabet c = true) ∧ decode t = x} = textOf x '' leftovers x := by
  ext t
  constructor
  · rintro ⟨hclean, rfl⟩
    have hsplit := ofDigits_groups_append_rest (w := 8) (by omega) (bits t)
    have hlen := congrArg List.length hsplit
    rw [List.length_append, length_ofDigits, length_bits] at hlen
    refine ⟨rest 8 (bits t), ⟨?_, sextets t |>.length, hlen⟩, ?_⟩
    · rw [length_rest]
      exact Nat.mod_lt _ (by omega)
    · have hbits : ofDigits (decode t) ++ rest 8 (bits t) = ofDigits (sextets t) := hsplit
      rw [textOf, hbits, groups_ofDigits (by omega), map_symbol_sextets hclean]
  · rintro ⟨l, hl, rfl⟩
    refine ⟨fun c hc => ?_, ?_⟩
    · obtain ⟨s, -, rfl⟩ := List.mem_map.mp hc
      exact inAlphabet_symbol s
    · show groups 8 (bits (textOf x l)) = x
      rw [bits_textOf hl, groups_ofDigits_append (by omega), groups_of_lt hl.1, List.append_nil]

theorem textOf_injOn (x : List Byte) : Set.InjOn (textOf x) (leftovers x) := by
  intro l hl l' hl' h
  have hbits := congrArg bits h
  rw [bits_textOf hl, bits_textOf hl'] at hbits
  exact List.append_cancel_left hbits

theorem ncard_leftovers (x : List Byte) : (leftovers x).ncard =
    if x.length % 3 = 0 then 65 else if x.length % 3 = 1 then 16 else 4 := by
  have hone : ∀ m, (∀ l : List Bool, l ∈ leftovers x ↔ l.length = m) →
      (leftovers x).ncard = 2 ^ m := by
    intro m h
    rw [← ncard_bits, Set.ext h]
    rfl
  split
  · have htwo : leftovers x = {l | l.length = 0} ∪ {l | l.length = 6} := by
      ext l
      simp only [leftovers, Set.mem_union, Set.mem_ofPred_eq]
      omega
    have hfinite : ∀ m, {l : List Bool | l.length = m}.Finite := fun m =>
      Set.finite_of_ncard_ne_zero (by rw [ncard_bits]; exact Nat.two_pow_pos m |>.ne')
    have hdisjoint : Disjoint {l : List Bool | l.length = 0} {l | l.length = 6} := by
      rw [Set.disjoint_left]
      intro l hl hl'
      exact absurd (hl.symm.trans hl') (by decide)
    rw [htwo, Set.ncard_union_eq hdisjoint (hfinite 0) (hfinite 6), ncard_bits, ncard_bits]
    rfl
  · split
    · refine hone 4 fun l => ?_
      simp only [leftovers, Set.mem_ofPred_eq]
      omega
    · refine hone 2 fun l => ?_
      simp only [leftovers, Set.mem_ofPred_eq]
      omega

/-- **How many texts of alphabet characters decode to given bytes**, on every target and path: the
bits left over are free, and a character of its own fits where no bits are left over. -/
theorem ncard_decodesTo (T : Target) (simd : Base64DecodeBulkSimd) (x : List Byte) :
    {t | (∀ c ∈ t, inAlphabet c = true) ∧ decodeOneShot T simd t = x}.ncard =
      if x.length % 3 = 0 then 65 else if x.length % 3 = 1 then 16 else 4 := by
  simp only [decodeOneShot_eq]
  rw [decodesTo_eq, (textOf_injOn x).ncard_image, ncard_leftovers]

end Libb64
