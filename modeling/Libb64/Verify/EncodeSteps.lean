import Libb64.Cencode
import Libb64.Lib.Regroup

/-!
# The bits of an encoding step

What the masks, shifts and tables of the encoder compute, said once in terms of bit strings: with
the bits `q` read and not yet written in the high positions of `result`, each step writes the
character of the first six bits of `q` and the byte, and keeps the rest. The table loop writes the
same characters (`encodeTriple_eq`).
-/

namespace Libb64

open BitString Rfc4648

variable {T : Target}

/-- Six bits as the `char` that `result` holds them in. -/
def held (q : List Bool) : Byte := (digit 6 q).setWidth 8

theorem encoding_eq_alphabet : encoding = alphabet := rfl

theorem newline_not_alphabet : value newline = none := rfl

/-! ## Promotions -/

theorem promote_and (c m : Byte) : T.promote c &&& m.setWidth 32 = (c &&& m).setWidth 32 := by
  unfold Target.promote
  ext i hi
  split
  · simp [BitVec.getElem_signExtend]
    grind
  · simp

theorem promote_of_msb_false {c : Byte} (h : c.msb = false) : T.promote c = c.setWidth 32 := by
  unfold Target.promote
  split
  · exact BitVec.signExtend_eq_setWidth_of_msb_false h
  · rfl

theorem msb_held (q : List Bool) : (held q).msb = false := by
  simp [held, BitVec.msb_setWidth]

theorem toNat_held (q : List Bool) : (held q).toNat = (digit 6 q).toNat := by
  have hlt := (digit 6 q).isLt
  rw [held, BitVec.toNat_setWidth]
  omega

theorem encodingAt_held (q : List Bool) : encodingAt T (held q) = symbol (digit 6 q) := by
  have hlt := (digit 6 q).isLt
  have hint : ((held q).setWidth 32).toNat = (digit 6 q).toNat := by
    rw [BitVec.toNat_setWidth, toNat_held]
    omega
  rw [encodingAt, promote_of_msb_false (msb_held q), hint, encoding_eq_alphabet, symbol]

theorem base64EncodeValue_held (q : List Bool) :
    base64EncodeValue (held q) = symbol (digit 6 q) := by
  have hlt := (digit 6 q).isLt
  have hno : ¬(held q > 63) := by
    rw [gt_iff_lt, BitVec.lt_def, toNat_held]
    exact Nat.not_lt.mpr (Nat.le_of_lt_succ hlt)
  rw [base64EncodeValue, if_neg hno, encoding_eq_alphabet, toNat_held, symbol]

/-! ## The values of the six masks -/

section Masks

variable (fragment : Byte)

theorem stepA_first : toChar ((T.promote fragment &&& 0x0fc).sshiftRight 2) =
    held (ofDigit fragment) := by
  rw [show (0x0fc : CInt) = (0xfc : Byte).setWidth 32 from rfl, promote_and]
  apply ofDigit_injective
  simp [toChar, held, getMsbD_digit, ofDigit, List.range_succ, BitVec.getMsbD_sshiftRight]

theorem stepA_rest : toChar ((T.promote fragment &&& 0x003) <<< 4) =
    held ((ofDigit fragment).drop 6) := by
  rw [show (0x003 : CInt) = (0x03 : Byte).setWidth 32 from rfl, promote_and]
  apply ofDigit_injective
  simp [toChar, held, getMsbD_digit, ofDigit, List.range_succ]

theorem stepB_first {q : List Bool} (hq : q.length = 2) :
    toChar (T.promote (held q) ||| (T.promote fragment &&& 0x0f0).sshiftRight 4) =
      held (q ++ ofDigit fragment) := by
  obtain ⟨a, b, rfl⟩ := List.length_eq_two.mp hq
  rw [show (0x0f0 : CInt) = (0xf0 : Byte).setWidth 32 from rfl, promote_and,
    promote_of_msb_false (msb_held _)]
  apply ofDigit_injective
  simp [toChar, held, getMsbD_digit, ofDigit, List.range_succ, BitVec.getMsbD_sshiftRight]

theorem stepB_rest : toChar ((T.promote fragment &&& 0x00f) <<< 2) =
    held ((ofDigit fragment).drop 4) := by
  rw [show (0x00f : CInt) = (0x0f : Byte).setWidth 32 from rfl, promote_and]
  apply ofDigit_injective
  simp [toChar, held, getMsbD_digit, ofDigit, List.range_succ]

theorem stepC_first {q : List Bool} (hq : q.length = 4) :
    toChar (T.promote (held q) ||| (T.promote fragment &&& 0x0c0).sshiftRight 6) =
      held (q ++ ofDigit fragment) := by
  obtain ⟨a, b, c, d, rfl⟩ : ∃ a b c d, q = [a, b, c, d] := by
    match q, hq with
    | [a, b, c, d], _ => exact ⟨a, b, c, d, rfl⟩
  rw [show (0x0c0 : CInt) = (0xc0 : Byte).setWidth 32 from rfl, promote_and,
    promote_of_msb_false (msb_held _)]
  apply ofDigit_injective
  simp [toChar, held, getMsbD_digit, ofDigit, List.range_succ, BitVec.getMsbD_sshiftRight]

theorem stepC_last : toChar ((T.promote fragment &&& 0x03f).sshiftRight 0) =
    held ((ofDigit fragment).drop 2) := by
  rw [show (0x03f : CInt) = (0x3f : Byte).setWidth 32 from rfl, promote_and]
  apply ofDigit_injective
  simp [toChar, held, getMsbD_digit, ofDigit, List.range_succ]

end Masks

/-! ## The table loop -/

theorem packed_low (i : Nat) : (packed i &&& 0xff).setWidth 8 = encoding.getD (i >>> 6) 0 := by
  apply ofDigit_injective
  simp [packed, ofDigit, List.range_succ]

theorem packed_high (i : Nat) : (packed i >>> 8).setWidth 8 = encoding.getD (i &&& 0x3f) 0 := by
  apply ofDigit_injective
  simp [packed, ofDigit, List.range_succ]

section Triple

variable (src0 src1 src2 : Byte)

/-- The 24 bits of a triple. -/
def joined : BitVec 24 := src0 ++ src1 ++ src2

theorem ofDigits_triple : ofDigits [src0, src1, src2] = ofDigit (joined src0 src1 src2) := by
  have h := ofDigit_append (src0 ++ src1) src2
  rw [ofDigit_append src0 src1, List.append_assoc] at h
  simpa [joined] using h.symm

theorem encode_triple : encode [src0, src1, src2] =
    [18, 12, 6, 0].map fun k => symbol ((joined src0 src1 src2).extractLsb' k 6) := by
  have hlen : (ofDigit (joined src0 src1 src2)).length = 24 := length_ofDigit _
  have hgroups : groups 6 (ofDigit (joined src0 src1 src2)) =
      [18, 12, 6, 0].map fun k => (joined src0 src1 src2).extractLsb' k 6 := by
    rw [groups_ofDigit]
    rfl
  have hrest : rest 6 (ofDigit (joined src0 src1 src2)) = [] := by
    rw [← List.length_eq_zero_iff, length_rest, hlen]
  have hsym : symbols [src0, src1, src2] =
      [18, 12, 6, 0].map fun k => symbol ((joined src0 src1 src2).extractLsb' k 6) := by
    rw [symbols, ofDigits_triple, padded, if_pos hrest, hgroups, List.map_map]
    rfl
  simp [encode, hsym]

theorem tripleWord_eq : src0.setWidth 32 <<< 16 ||| src1.setWidth 32 <<< 8 ||| src2.setWidth 32 =
    (joined src0 src1 src2).setWidth 32 := by
  ext i hi
  simp [joined]
  grind

/-- **The table loop encodes a triple.** -/
theorem encodeTriple_eq : encodeTriple src0 src1 src2 = encode [src0, src1, src2] := by
  have hlt := (joined src0 src1 src2).isLt
  have hhi : ((joined src0 src1 src2).setWidth 32 >>> 12).toNat =
      (joined src0 src1 src2).toNat / 4096 := by
    rw [BitVec.toNat_ushiftRight, BitVec.toNat_setWidth, Nat.shiftRight_eq_div_pow]
    omega
  have hlo : ((joined src0 src1 src2).setWidth 32 &&& 0xfff).toNat =
      (joined src0 src1 src2).toNat % 4096 := by
    have hmask := Nat.and_two_pow_sub_one_eq_mod ((joined src0 src1 src2).toNat % 2 ^ 32) 12
    rw [BitVec.toNat_and, BitVec.toNat_setWidth]
    refine hmask.trans ?_
    omega
  have hchar : ∀ i k, i % 64 = (joined src0 src1 src2).toNat / 2 ^ k % 64 → i < 64 →
      encoding.getD i 0 = symbol ((joined src0 src1 src2).extractLsb' k 6) := by
    intro i k hik hi
    rw [symbol, BitVec.extractLsb'_toNat, Nat.shiftRight_eq_div_pow, encoding_eq_alphabet,
      show i = (joined src0 src1 src2).toNat / 2 ^ k % 64 by omega]
  have hand : ∀ i, i &&& 0x3f = i % 64 := fun i => Nat.and_two_pow_sub_one_eq_mod i 6
  rw [encodeTriple, tripleWord_eq, encode_triple]
  rw [hhi, hlo, getD_base64Enc12 (by omega), getD_base64Enc12 (by omega)]
  simp only [packed_low, packed_high, hand, Nat.shiftRight_eq_div_pow]
  rw [hchar _ 18 (by omega) (by omega), hchar _ 12 (by omega) (by omega),
    hchar _ 6 (by omega) (by omega), hchar _ 0 (by omega) (by omega)]
  rfl

end Triple

end Libb64
