import Mathlib.Algebra.Group.Nat.Defs
import Mathlib.Data.Nat.Basic

/-!
# Machine arithmetic that remembers whether it wrapped

Unsigned sums, differences and products at a fixed width, in a monad that carries one flag: some
operation so far left the range of the type. A computation written in it has its machine value
(`value`) and the answer to the question whether the machine value can be trusted (`wrapped`).
`Computes` says both at once, and its rules follow a computation operation by operation.
-/

/-- The result of a computation, and whether an operation in it wrapped. -/
structure Checked (α : Type*) where
  value : α
  wrapped : Bool
deriving DecidableEq, Repr

namespace Checked

variable {α β : Type} {w : Nat}

instance : Monad Checked where
  pure x := ⟨x, false⟩
  bind x f := ⟨(f x.value).value, x.wrapped || (f x.value).wrapped⟩

def add (x y : BitVec w) : Checked (BitVec w) := ⟨x + y, x.uaddOverflow y⟩

def sub (x y : BitVec w) : Checked (BitVec w) := ⟨x - y, x.usubOverflow y⟩

def mul (x y : BitVec w) : Checked (BitVec w) := ⟨x * y, x.umulOverflow y⟩

/-- Nothing wrapped, and the value is the number `n`. -/
structure Computes (x : Checked (BitVec w)) (n : Nat) : Prop where
  not_wrapped : x.wrapped = false
  value : x.value.toNat = n

namespace Computes

variable {v : Nat}

theorem pure (x : BitVec w) : Computes (pure x) x.toNat := ⟨rfl, rfl⟩

/-- A step that computes a number hands a value of that number on. -/
theorem bind {x : Checked (BitVec v)} {f : BitVec v → Checked (BitVec w)} {m n : Nat}
    (h : Computes x m) (hf : ∀ y, y.toNat = m → Computes (f y) n) : Computes (x >>= f) n := by
  obtain ⟨hwrap, hval⟩ := hf x.value h.value
  refine ⟨?_, hval⟩
  show (x.wrapped || (f x.value).wrapped) = false
  rw [h.not_wrapped, hwrap, Bool.or_self]

theorem add {x y : BitVec w} (h : x.toNat + y.toNat < 2 ^ w) :
    Computes (add x y) (x.toNat + y.toNat) := by
  refine ⟨?_, BitVec.toNat_add_of_lt h⟩
  simp only [Checked.add, BitVec.uaddOverflow, decide_eq_false_iff_not]
  omega

theorem sub {x y : BitVec w} (h : y.toNat ≤ x.toNat) :
    Computes (sub x y) (x.toNat - y.toNat) := by
  refine ⟨?_, BitVec.toNat_sub_of_le (BitVec.le_def.mpr h)⟩
  simp only [Checked.sub, BitVec.usubOverflow, decide_eq_false_iff_not]
  omega

theorem mul {x y : BitVec w} (h : x.toNat * y.toNat < 2 ^ w) :
    Computes (mul x y) (x.toNat * y.toNat) := by
  refine ⟨?_, BitVec.toNat_mul_of_lt h⟩
  simp only [Checked.mul, BitVec.umulOverflow, decide_eq_false_iff_not]
  omega

end Computes

end Checked
