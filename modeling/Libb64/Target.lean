import Mathlib.Algebra.Group.Nat.Defs
import Mathlib.Data.Nat.Basic

/-!
# The C target

What the C standard leaves to the implementation and the library's behaviour could depend on: the
width of `size_t` and whether plain `char` is signed. An `int` has 32 bits.
-/

namespace Libb64

/-- The implementation-defined properties of a C target. `SIZE_MAX` is at least 65535. -/
structure Target where
  sizeBits : Nat
  charSigned : Bool
  sizeBits_ge : 16 ≤ sizeBits

/-- The object representation of a `char`. -/
abbrev Byte := BitVec 8

abbrev CInt := BitVec 32

abbrev Target.SizeT (T : Target) := BitVec T.sizeBits

/-- The integer promotion of a plain `char`. -/
def Target.promote (T : Target) (c : Byte) : CInt :=
  if T.charSigned then c.signExtend 32 else c.setWidth 32

/-- The conversion of an `int` to plain `char`. -/
def toChar (i : CInt) : Byte := i.setWidth 8

/-- The code of a character constant. -/
def charCode (c : Char) : Byte := BitVec.ofNat 8 c.toNat

/-- A common 64-bit target and a 32-bit one. -/
def x86_64 : Target := ⟨64, true, by decide⟩

def i386 : Target := ⟨32, true, by decide⟩

/-! ## Values of `size_t` -/

section SizeT

variable {T : Target}

theorem toNat_ofNat_of_lt {k : Nat} (hk : k < 65536) : (BitVec.ofNat T.sizeBits k).toNat = k := by
  have hpow : 2 ^ 16 ≤ 2 ^ T.sizeBits := Nat.pow_le_pow_right (by omega) T.sizeBits_ge
  rw [BitVec.toNat_ofNat, Nat.mod_eq_of_lt (by omega)]

theorem toNat_sizeMax : (~~~0 : T.SizeT).toNat = 2 ^ T.sizeBits - 1 := by
  simp

theorem toNat_eq_zero_iff {n : T.SizeT} : n.toNat = 0 ↔ n = 0 := by
  simp [BitVec.toNat_eq]

theorem ne_zero_of_toNat_pos {n : T.SizeT} (h : 0 < n.toNat) : n ≠ 0 := by
  intro hn
  rw [toNat_eq_zero_iff.mpr hn] at h
  exact Nat.lt_irrefl 0 h

/-- `size_t` has a multiple of four values, and many of them. -/
theorem sizeBits_pow : ∃ k, 2 ^ T.sizeBits = 4 * k ∧ 2 ^ 14 ≤ k := by
  have h := T.sizeBits_ge
  refine ⟨2 ^ (T.sizeBits - 2), ?_, Nat.pow_le_pow_right (by omega) (by omega)⟩
  rw [← Nat.pow_add 2 2, show 2 + (T.sizeBits - 2) = T.sizeBits by omega]

end SizeT

end Libb64
