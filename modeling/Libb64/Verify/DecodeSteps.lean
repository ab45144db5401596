import Libb64.Cdecode
import Libb64.Lib.Regroup

/-!
# The bits of a decoding step

What the tables, masks and shifts of the decoder compute, said once in terms of bit strings: the
tables hold the values of the alphabet's characters, a byte under construction is `digit 8` of the
bits gathered for it, and a clean quad is three bytes.
-/

namespace Libb64

open BitString Rfc4648

variable {T : Target}

/-! ## The decoding table -/

/-- `decoding` is negative outside the alphabet and the character's value inside. -/
theorem base64DecodeValue_eq (c : Byte) :
    (base64DecodeValue c).slt 0 = (value c).isNone ∧
      ∀ v, value c = some v → base64DecodeValue c = v.setWidth 32 := by
  have hall := forall_of_all_table
    (fun entry c => (entry.signExtend 32).slt 0 == (value c).isNone &&
      (value c).all fun v => entry.signExtend 32 == v.setWidth 32)
    (0 : Byte) (by decide +kernel : decoding.length = 2 ^ 8) (by decide +kernel) c
  rw [Bool.and_eq_true, beq_iff_eq] at hall
  refine ⟨hall.1, fun v hv => ?_⟩
  rw [hv] at hall
  exact eq_of_beq hall.2

theorem nextFragment_spec (code : List Byte) :
    (nextFragment code = none ∧ sextets code = []) ∨
      ∃ skipped c v code', code = skipped ++ c :: code' ∧ sextets skipped = [] ∧
        value c = some v ∧ nextFragment code = some (v.setWidth 32, code') := by
  induction code with
  | nil => exact .inl ⟨rfl, rfl⟩
  | cons c code ih =>
    obtain ⟨hneg, hval⟩ := base64DecodeValue_eq c
    cases hc : value c with
    | none =>
      have hslt : (base64DecodeValue c).slt 0 = true := by rw [hneg, hc]; rfl
      rcases ih with ⟨hnone, hs⟩ | ⟨skipped, d, v, code', rfl, hs, hd, hsome⟩
      · left
        simp only [nextFragment, hslt, if_true, hnone, sextets_cons_of_none hc, hs, and_self]
      · right
        refine ⟨c :: skipped, d, v, code', rfl, ?_, hd, ?_⟩
        · rw [sextets_cons_of_none hc, hs]
        · simp only [nextFragment, hslt, if_true, hsome]
    | some v =>
      have hslt : (base64DecodeValue c).slt 0 = false := by rw [hneg, hc]; rfl
      right
      refine ⟨[], c, v, code, rfl, rfl, hc, ?_⟩
      rw [nextFragment, hslt, hval v hc]
      rfl

/-! ## The masks -/

section Masks

variable (v : Sextet)

/-- Truncation forgets how the byte was promoted. -/
theorem toChar_promote_or (x : Byte) (y : CInt) :
    toChar (T.promote x ||| y) = x ||| toChar y := by
  unfold Target.promote toChar
  ext i hi
  split
  · simp
    grind
  · simp

/-- The first character of a byte fills its high bits. -/
theorem stepa_high : toChar ((v.setWidth 32 &&& 0x03f) <<< 2) = digit 8 (ofDigit v) := by
  apply ofDigit_injective
  simp [toChar, ofDigit, List.range_succ, getMsbD_digit]

theorem stepb_low {q : List Bool} (hq : q.length = 6) :
    toChar (T.promote (digit 8 q) ||| (v.setWidth 32 &&& 0x030).sshiftRight 4) =
      digit 8 (q ++ ofDigit v) := by
  obtain ⟨a, b, c, d, e, f, rfl⟩ : ∃ a b c d e f, q = [a, b, c, d, e, f] := by
    match q, hq with
    | [a, b, c, d, e, f], _ => exact ⟨a, b, c, d, e, f, rfl⟩
  rw [toChar_promote_or]
  apply ofDigit_injective
  simp [toChar, ofDigit, List.range_succ, getMsbD_digit, BitVec.getMsbD_sshiftRight]

theorem stepb_high : toChar ((v.setWidth 32 &&& 0x00f) <<< 4) =
    digit 8 ((ofDigit v).drop 2) := by
  apply ofDigit_injective
  simp [toChar, ofDigit, List.range_succ, getMsbD_digit]

theorem stepc_low {q : List Bool} (hq : q.length = 4) :
    toChar (T.promote (digit 8 q) ||| (v.setWidth 32 &&& 0x03c).sshiftRight 2) =
      digit 8 (q ++ ofDigit v) := by
  obtain ⟨a, b, c, d, rfl⟩ : ∃ a b c d, q = [a, b, c, d] := by
    match q, hq with
    | [a, b, c, d], _ => exact ⟨a, b, c, d, rfl⟩
  rw [toChar_promote_or]
  apply ofDigit_injective
  simp [toChar, ofDigit, List.range_succ, getMsbD_digit, BitVec.getMsbD_sshiftRight]

theorem stepc_high : toChar ((v.setWidth 32 &&& 0x003) <<< 6) =
    digit 8 ((ofDigit v).drop 4) := by
  apply ofDigit_injective
  simp [toChar, ofDigit, List.range_succ, getMsbD_digit]

theorem stepd_low {q : List Bool} (hq : q.length = 2) :
    toChar (T.promote (digit 8 q) ||| (v.setWidth 32 &&& 0x03f)) =
      digit 8 (q ++ ofDigit v) := by
  obtain ⟨a, b, rfl⟩ := List.length_eq_two.mp hq
  rw [toChar_promote_or]
  apply ofDigit_injective
  simp [toChar, ofDigit, List.range_succ, getMsbD_digit]

end Masks

/-! ## The quad tables -/

/-- A table entry: the value at its place in the 24-bit word, or bit 24. -/
def quadEntry (shift : Nat) : Option Sextet → BitVec 32
  | some v => v.setWidth 32 <<< shift
  | none => 0x01000000

theorem valueOf_eq (c : Byte) :
    valueOf c.toNat = (value c).elim (-1) fun v => (v.toNat : Int) := by
  have hall : ∀ c : Byte,
      (valueOf c.toNat == (value c).elim (-1) fun v => (v.toNat : Int)) = true :=
    forall_of_all (by decide +kernel)
  exact eq_of_beq (hall c)

theorem emitEntry_eq (shift : Nat) (c : Byte) :
    emitEntry shift c.toNat = quadEntry shift (value c) := by
  rw [emitEntry, valueOf_eq]
  cases value c with
  | none => rfl
  | some v =>
    have hnonneg : ¬((v.toNat : Int) < 0) := by omega
    have hword : BitVec.ofInt 32 v.toNat = v.setWidth 32 := by
      rw [BitVec.ofInt_natCast, BitVec.ofNat_toNat]
    simp only [Option.elim_some, hnonneg, if_false, hword, quadEntry]

theorem quadWord_eq (code0 code1 code2 code3 : Byte) :
    b64Dec0.getD code0.toNat 0 ||| b64Dec1.getD code1.toNat 0 |||
      b64Dec2.getD code2.toNat 0 ||| b64Dec3.getD code3.toNat 0 =
    quadEntry 18 (value code0) ||| quadEntry 12 (value code1) |||
      quadEntry 6 (value code2) ||| quadEntry 0 (value code3) := by
  obtain ⟨h0, h1, h2, h3⟩ := b64Dec_eq
  have hget : ∀ (shift : Nat) (c : Byte),
      ((List.range 256).map (emitEntry shift)).getD c.toNat 0 = quadEntry shift (value c) := by
    intro shift c
    rw [List.getD_eq_getElem?_getD, List.getElem?_map, List.getElem?_range c.isLt, ← emitEntry_eq]
    rfl
  rw [h0, h1, h2, h3, hget, hget, hget, hget]

section Quad

variable (v0 v1 v2 v3 : Sextet)

/-- The 24 bits of a quad. -/
def quadBits : BitVec 24 := v0 ++ v1 ++ v2 ++ v3

theorem ofDigits_quad : ofDigits [v0, v1, v2, v3] = ofDigit (quadBits v0 v1 v2 v3) := by
  have h := ofDigit_append (v0 ++ v1 ++ v2) v3
  rw [ofDigit_append (v0 ++ v1) v2, ofDigit_append v0 v1, List.append_assoc,
    List.append_assoc] at h
  simpa [quadBits] using h.symm

theorem cleanWord_eq : quadEntry 18 (some v0) ||| quadEntry 12 (some v1) |||
    quadEntry 6 (some v2) ||| quadEntry 0 (some v3) = (quadBits v0 v1 v2 v3).setWidth 32 := by
  simp only [quadEntry, quadBits]
  ext i hi
  simp
  grind

theorem cleanWord_shift : (quadBits v0 v1 v2 v3).setWidth 32 >>> 24 = 0 := by
  have hlt := (quadBits v0 v1 v2 v3).isLt
  apply BitVec.eq_of_toNat_eq
  rw [BitVec.toNat_ushiftRight, BitVec.toNat_setWidth, Nat.shiftRight_eq_div_pow]
  simp
  omega

theorem groups_quad : groups 8 (ofDigits [v0, v1, v2, v3]) =
    [(((quadBits v0 v1 v2 v3).setWidth 32 : BitVec 32) >>> 16).setWidth 8,
      (((quadBits v0 v1 v2 v3).setWidth 32 : BitVec 32) >>> 8).setWidth 8,
      ((quadBits v0 v1 v2 v3).setWidth 32 : BitVec 32).setWidth 8] := by
  rw [ofDigits_quad, groups_ofDigit]
  generalize quadBits v0 v1 v2 v3 = b
  have hslice : ∀ k ≤ 24,
      ((b.setWidth 32 : BitVec 32) >>> k).setWidth 8 = b.extractLsb' k 8 := by
    intro k hk
    ext i hi
    simp
    omega
  have hlow : (b.setWidth 32 : BitVec 32).setWidth 8 = b.extractLsb' 0 8 := by
    simpa using hslice 0 (by omega)
  rw [hslice 16 (by omega), hslice 8 (by omega), hlow]
  rfl

end Quad

/-- A quad with a character outside the alphabet sets bit 24. -/
theorem dirtyWord_shift {o0 o1 o2 o3 : Option Sextet}
    (h : o0 = none ∨ o1 = none ∨ o2 = none ∨ o3 = none) :
    (quadEntry 18 o0 ||| quadEntry 12 o1 ||| quadEntry 6 o2 ||| quadEntry 0 o3) >>> 24 ≠ 0 := by
  intro hzero
  have hbit := congrArg (BitVec.getLsbD · 0) hzero
  simp only [BitVec.getLsbD_ushiftRight, BitVec.getLsbD_or] at hbit
  have hnone : ∀ shift, (quadEntry shift none)[24] = true := by
    intro shift
    show (0x01000000 : BitVec 32)[24] = true
    decide
  rcases h with rfl | rfl | rfl | rfl <;> simp [hnone] at hbit

theorem decodeQuads_dirty {code0 code1 code2 code3 : Byte} (h : value code0 = none ∨
    value code1 = none ∨ value code2 = none ∨ value code3 = none) (code : List Byte) (o : Nat)
    (buf : OutBuf Byte) :
    decodeQuads (code0 :: code1 :: code2 :: code3 :: code) o buf =
      (code0 :: code1 :: code2 :: code3 :: code, o, buf) := by
  rw [decodeQuads, quadWord_eq]
  exact if_pos (dirtyWord_shift h)

theorem decodeQuads_clean {code0 code1 code2 code3 : Byte} {v0 v1 v2 v3 : Sextet}
    (h0 : value code0 = some v0) (h1 : value code1 = some v1) (h2 : value code2 = some v2)
    (h3 : value code3 = some v3) (code : List Byte) (o : Nat) (buf : OutBuf Byte) :
    decodeQuads (code0 :: code1 :: code2 :: code3 :: code) o buf =
      decodeQuads code (o + 3) (buf.storeList o (groups 8 (ofDigits [v0, v1, v2, v3]))) := by
  have hclean : ¬((quadBits v0 v1 v2 v3).setWidth 32 >>> 24 ≠ (0 : BitVec 32)) :=
    not_not.mpr (cleanWord_shift v0 v1 v2 v3)
  rw [decodeQuads, quadWord_eq, h0, h1, h2, h3, cleanWord_eq, groups_quad]
  exact if_neg hclean

/-- **The quad loop** decodes whole clean quads from the front and stops. -/
theorem decodeQuads_spec : ∀ (code : List Byte) (o : Nat) (buf : OutBuf Byte),
    ∃ vs, code = vs.map symbol ++ (decodeQuads code o buf).1 ∧ 4 ∣ vs.length ∧
      (decodeQuads code o buf).2 =
        (o + vs.length / 4 * 3, buf.storeList o (groups 8 (ofDigits vs)))
  | code0 :: code1 :: code2 :: code3 :: code, o, buf => by
    by_cases hdirty : value code0 = none ∨ value code1 = none ∨ value code2 = none ∨
        value code3 = none
    · rw [decodeQuads_dirty hdirty]
      exact ⟨[], rfl, by simp, by simp [groups_of_lt, OutBuf.storeList]⟩
    simp only [not_or, ← ne_eq, Option.ne_none_iff_exists'] at hdirty
    obtain ⟨⟨v0, h0⟩, ⟨v1, h1⟩, ⟨v2, h2⟩, ⟨v3, h3⟩⟩ := hdirty
    rw [decodeQuads_clean h0 h1 h2 h3]
    obtain ⟨vs, hcode, hdvd, hout⟩ := decodeQuads_spec code (o + 3)
      (buf.storeList o (groups 8 (ofDigits [v0, v1, v2, v3])))
    have hrest : rest 8 (ofDigits [v0, v1, v2, v3]) = [] := by
      rw [← List.length_eq_zero_iff, length_rest, length_ofDigits]
      simp
    have hthree : (groups 8 (ofDigits [v0, v1, v2, v3])).length = 3 := by
      rw [groups_quad]
      rfl
    refine ⟨[v0, v1, v2, v3] ++ vs, ?_, ?_, ?_⟩
    · rw [List.map_append, List.append_assoc, ← hcode]
      simp [symbol_of_value h0, symbol_of_value h1, symbol_of_value h2, symbol_of_value h3]
    · simp only [List.length_append, List.length_cons, List.length_nil]
      omega
    · rw [hout, ofDigits_append, groups_append_of_rest_eq_nil (by omega) hrest,
        OutBuf.storeList_append, hthree, List.length_append]
      congr 1
      simp only [List.length_cons, List.length_nil]
      omega
  | [], _, _ => ⟨[], rfl, by simp, by simp [decodeQuads, groups_of_lt, OutBuf.storeList]⟩
  | [_], _, _ => ⟨[], rfl, by simp, by simp [decodeQuads, groups_of_lt, OutBuf.storeList]⟩
  | [_, _], _, _ => ⟨[], rfl, by simp, by simp [decodeQuads, groups_of_lt, OutBuf.storeList]⟩
  | [_, _, _], _, _ => ⟨[], rfl, by simp, by simp [decodeQuads, groups_of_lt, OutBuf.storeList]⟩

end Libb64
