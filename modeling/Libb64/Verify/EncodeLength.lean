import Libb64.Verify.EncodeOutput

/-!
# `base64_encode_length`

The helper's formula is the length of what the encoder writes, and its guards return 0 exactly when
that length leaves no room for a terminator in `size_t` (`base64EncodeLength_exact`).
-/

namespace Libb64

open BitString Rfc4648 Lines

variable {T : Target}

/-- The number of bytes that `n` bytes encode to in lines of `c` characters. -/
def encodedLength (c n : Nat) : Nat :=
  4 * ((n + 2) / 3) + if c = 0 then 0 else (4 * ((n + 2) / 3) - 1) / c + 1

theorem length_encodeSession (c : T.SizeT) (calls : List EncodeCall) :
    (encodeSession c calls).length = encodedLength c.toNat (plaintextOf calls).length := by
  rw [encodeSession_eq, length_layout, length_encode, encodedLength]

/-! ## The formula in machine arithmetic -/

section SizeT

/-- The line breaks of `retval` characters, added if the sum leaves room. -/
theorem numbreaks_computes {retval cpl : T.SizeT} (hE : retval.toNat ≠ 0) (hc : cpl.toNat ≠ 0) :
    Checked.Computes (do
        let numbreaks ← Checked.add ((← Checked.sub retval 1) / cpl) 1
        let retmax ← Checked.sub (~~~0) retval
        if numbreaks < retmax then
          Checked.add numbreaks retval
        else
          pure 0)
      (if retval.toNat + ((retval.toNat - 1) / cpl.toNat + 1) + 1 < 2 ^ T.sizeBits then
        retval.toNat + ((retval.toNat - 1) / cpl.toNat + 1) else 0) := by
  have hmax := toNat_sizeMax (T := T)
  have h1 : (1 : T.SizeT).toNat = 1 := toNat_ofNat_of_lt (by decide)
  have hlt := retval.isLt
  have hle := Nat.div_le_self (retval.toNat - 1) cpl.toNat
  refine (Checked.Computes.sub (by omega)).bind fun pred hpred => ?_
  have hdiv : (pred / cpl).toNat = (retval.toNat - 1) / cpl.toNat := by
    rw [BitVec.toNat_udiv, hpred, h1]
  refine (Checked.Computes.add (by omega)).bind fun numbreaks hbreaks => ?_
  refine (Checked.Computes.sub (by omega)).bind fun room hroom => ?_
  by_cases hfit : numbreaks < room
  · rw [if_pos hfit]
    rw [BitVec.lt_def] at hfit
    rw [if_pos (by omega), show retval.toNat + ((retval.toNat - 1) / cpl.toNat + 1) =
      numbreaks.toNat + retval.toNat by omega]
    exact Checked.Computes.add (by omega)
  · rw [if_neg hfit]
    rw [BitVec.lt_def] at hfit
    rw [if_neg (by omega)]
    exact ⟨rfl, toNat_ofNat_of_lt (by decide)⟩

end SizeT

/-- The computation step by step: each operation stays in range where it is reached, and the
guards leave out exactly the lengths that do not fit. -/
theorem base64EncodeLength_computes (n : T.SizeT) (s : Base64EncodeState T) :
    Checked.Computes (base64EncodeLength n s)
      (if encodedLength s.charsPerLine.toNat n.toNat + 1 < 2 ^ T.sizeBits then
        encodedLength s.charsPerLine.toNat n.toNat else 0) := by
  obtain ⟨k, hpow, hbig⟩ := sizeBits_pow (T := T)
  have hmax := toNat_sizeMax (T := T)
  have h0 : (0 : T.SizeT).toNat = 0 := toNat_ofNat_of_lt (by decide)
  have h1 : (1 : T.SizeT).toNat = 1 := toNat_ofNat_of_lt (by decide)
  have h2 : (2 : T.SizeT).toNat = 2 := toNat_ofNat_of_lt (by decide)
  have h3 : (3 : T.SizeT).toNat = 3 := toNat_ofNat_of_lt (by decide)
  have h4 : (4 : T.SizeT).toNat = 4 := toNat_ofNat_of_lt (by decide)
  have hsentinel : Checked.Computes (pure (0 : T.SizeT)) 0 := ⟨rfl, h0⟩
  have hcpl : s.charsPerLine ≠ 0 ↔ s.charsPerLine.toNat ≠ 0 := not_congr toNat_eq_zero_iff.symm
  unfold base64EncodeLength encodedLength
  refine (Checked.Computes.sub (by omega)).bind fun limit hlimit => ?_
  by_cases hn : n > limit
  · rw [if_pos hn]
    rw [gt_iff_lt, BitVec.lt_def] at hn
    rw [if_neg (by omega)]
    exact hsentinel
  rw [if_neg hn]
  rw [gt_iff_lt, BitVec.lt_def] at hn
  refine (Checked.Computes.add (by omega)).bind fun sum hsum => ?_
  dsimp only
  have hthird : (sum / 3).toNat = (n.toNat + 2) / 3 := by
    rw [BitVec.toNat_udiv, hsum, h2, h3]
  have hquarter : (~~~0 / 4 : T.SizeT).toNat = (2 ^ T.sizeBits - 1) / 4 := by
    rw [BitVec.toNat_udiv, hmax, h4]
  by_cases hgroups : sum / 3 > ~~~0 / 4
  · rw [if_pos hgroups]
    rw [gt_iff_lt, BitVec.lt_def] at hgroups
    rw [if_neg (by omega)]
    exact hsentinel
  rw [if_neg hgroups]
  rw [gt_iff_lt, BitVec.lt_def] at hgroups
  refine (Checked.Computes.mul (by rw [hthird, h4]; omega)).bind fun retval hretval => ?_
  rw [hthird, h4, Nat.mul_comm] at hretval
  have hpos : retval ≠ 0 ↔ retval.toNat ≠ 0 := not_congr toNat_eq_zero_iff.symm
  rw [← hretval]
  by_cases hc : s.charsPerLine.toNat = 0
  · rw [if_neg fun h => hcpl.mp h.2 hc, if_neg fun h => hcpl.mp h hc, if_pos hc,
      if_pos (by omega)]
    exact Checked.Computes.pure retval
  by_cases hE : retval.toNat = 0
  · rw [if_neg fun h => hpos.mp h.1 hE, if_pos (hcpl.mpr hc), if_neg hc, hE, Nat.zero_sub,
      Nat.zero_div, if_pos (by omega)]
    exact ⟨rfl, h1⟩
  rw [if_pos ⟨hpos.mpr hE, hcpl.mpr hc⟩, if_neg hc]
  exact numbreaks_computes hE hc

/-- **`base64_encode_length` is exact**: no operation in it wraps, and it returns the number of
bytes written for any text of the given length, or 0 if that number and one more do not fit. -/
theorem base64EncodeLength_exact (n : T.SizeT) (s : Base64EncodeState T) (calls : List EncodeCall)
    (hn : (plaintextOf calls).length = n.toNat) :
    (base64EncodeLength n s).wrapped = false ∧
      (base64EncodeLength n s).value.toNat =
        if (encodeSession s.charsPerLine calls).length + 1 < 2 ^ T.sizeBits then
          (encodeSession s.charsPerLine calls).length else 0 := by
  obtain ⟨hwrap, hval⟩ := base64EncodeLength_computes n s
  rw [length_encodeSession, hn]
  exact ⟨hwrap, hval⟩

/-- Five bytes in lines of four characters take ten. -/
theorem base64EncodeLength_exact_five :
    (base64EncodeLength 5 (freshEncodestate (T := i386) 4)).wrapped = false ∧
      (base64EncodeLength 5 (freshEncodestate (T := i386) 4)).value.toNat = 10 := by
  have h := base64EncodeLength_exact 5 (freshEncodestate (T := i386) 4)
    [⟨encodeSimdNone, "he".toList.map charCode⟩, ⟨encodeSimdNone, "llo".toList.map charCode⟩]
    (by decide)
  exact ⟨h.1, h.2.trans (by decide +kernel)⟩

end Libb64
