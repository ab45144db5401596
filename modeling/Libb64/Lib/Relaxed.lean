import Mathlib.Logic.Function.Basic
import Mathlib.Data.List.InsertIdx

/-!
# One atomic location with relaxed accesses

The stores to an atomic location stand in one order, its modification order. A relaxed load may
yield any value that is not older than what its thread has seen of the location, and a relaxed
store takes any place in the order after that. Which value a load yields and which place a store
takes is not decided by the program, so it is an argument of the access here; an access with a
choice that coherence forbids does not happen.
-/

/-- The values of a location in modification order, the initial one first, and for each thread the
newest position it has seen. -/
structure RelaxedLoc (ι α : Type*) where
  history : List α
  seen : ι → Nat

namespace RelaxedLoc

variable {ι α : Type*} [DecidableEq ι]

def init (ι : Type*) (a : α) : RelaxedLoc ι α := ⟨[a], fun _ => 0⟩

/-- Thread `i` loads the value at position `k`. -/
def load (l : RelaxedLoc ι α) (i : ι) (k : Nat) : Option (α × RelaxedLoc ι α) :=
  if l.seen i ≤ k then
    l.history[k]?.map fun a => (a, { l with seen := Function.update l.seen i k })
  else
    none

/-- Thread `i` stores `a` at position `k`. What stood there and after it moves up, and so does what
the other threads have seen of it. -/
def store (l : RelaxedLoc ι α) (i : ι) (k : Nat) (a : α) : Option (RelaxedLoc ι α) :=
  if l.seen i < k ∧ k ≤ l.history.length then
    some
      { history := l.history.insertIdx k a
        seen := Function.update (fun j => if k ≤ l.seen j then l.seen j + 1 else l.seen j) i k }
  else
    none

theorem insertIdx_replicate (a : α) {n k : Nat} (h : k ≤ n) :
    (List.replicate n a).insertIdx k a = List.replicate (n + 1) a := by
  refine List.eq_replicate_iff.mpr ⟨?_, fun b hb => ?_⟩
  · rw [List.length_insertIdx_of_le_length (by rwa [List.length_replicate]), List.length_replicate]
  · rcases List.eq_or_mem_of_mem_insertIdx hb with rfl | hb
    · rfl
    · exact List.eq_of_mem_replicate hb

/-- Only `a` has been stored to a location that started with `first`. -/
structure Settles (first a : α) (l : RelaxedLoc ι α) : Prop where
  history_eq : ∃ n, l.history = first :: List.replicate n a
  seen_lt : ∀ i, l.seen i < l.history.length

namespace Settles

variable {first a : α} {l l' : RelaxedLoc ι α} {i : ι} {k : Nat}

theorem init (ι : Type*) (first a : α) : (RelaxedLoc.init ι first).Settles first a where
  history_eq := ⟨0, rfl⟩
  seen_lt _ := Nat.one_pos

/-- **A load** yields the initial value from position 0, and the stored one from any other. -/
theorem load {b : α} (h : l.Settles first a) (hload : l.load i k = some (b, l')) :
    l'.Settles first a ∧ l'.history = l.history ∧ l.seen i ≤ k ∧
      l'.seen = Function.update l.seen i k ∧ (b = if k = 0 then first else a) := by
  obtain ⟨n, hhist⟩ := h.history_eq
  unfold RelaxedLoc.load at hload
  split at hload
  · next hle =>
    obtain ⟨b', hb, heq⟩ := Option.map_eq_some_iff.mp hload
    obtain ⟨rfl, rfl⟩ := Prod.mk.inj heq
    obtain ⟨hlt, -⟩ := List.getElem?_eq_some_iff.mp hb
    refine ⟨⟨h.history_eq, fun j => ?_⟩, rfl, hle, rfl, ?_⟩
    · dsimp only
      rcases eq_or_ne j i with rfl | hj
      · rw [Function.update_self]
        exact hlt
      · rw [Function.update_of_ne hj]
        exact h.seen_lt j
    · rw [hhist] at hb
      cases k with
      | zero => exact (Option.some.inj hb).symm
      | succ k =>
        rw [List.getElem?_cons_succ] at hb
        exact List.eq_of_mem_replicate (List.mem_of_getElem? hb)
  · cases hload

/-- **A store** of the same value, wherever it goes. -/
theorem store (h : l.Settles first a) (hstore : l.store i k a = some l') :
    l'.Settles first a ∧ l'.history.length = l.history.length + 1 ∧ 0 < l'.seen i ∧
      ∀ j ≠ i, (l'.seen j = 0 ↔ l.seen j = 0) := by
  obtain ⟨n, hhist⟩ := h.history_eq
  unfold RelaxedLoc.store at hstore
  split at hstore
  · next hk =>
    cases hstore
    obtain ⟨k, rfl⟩ : ∃ m, k = m + 1 := ⟨k - 1, by omega⟩
    have hlen : (l.history.insertIdx (k + 1) a).length = l.history.length + 1 :=
      List.length_insertIdx_of_le_length hk.2 a
    have hle : k ≤ n := by
      have hkl := hk.2
      rw [hhist] at hkl
      simpa using hkl
    refine ⟨⟨⟨n + 1, ?_⟩, fun j => ?_⟩, hlen, ?_, fun j hj => ?_⟩
    · rw [hhist, List.insertIdx_succ_cons, insertIdx_replicate a hle]
    · dsimp only
      rw [hlen]
      rcases eq_or_ne j i with rfl | hj
      · rw [Function.update_self]
        omega
      · rw [Function.update_of_ne hj]
        have hlt := h.seen_lt j
        split <;> omega
    · simp
    · dsimp only
      rw [Function.update_of_ne hj]
      split <;> omega
  · cases hstore

/-- A thread can always load, and always store. -/
theorem progress (h : l.Settles first a) (i : ι) :
    (∃ k, (l.load i k).isSome) ∧ ∀ b, ∃ k, (l.store i k b).isSome := by
  have hlt := h.seen_lt i
  refine ⟨⟨l.seen i, ?_⟩, fun b => ⟨l.history.length, ?_⟩⟩
  · rw [RelaxedLoc.load, if_pos (Nat.le_refl _), List.getElem?_eq_getElem hlt]
    rfl
  · rw [RelaxedLoc.store, if_pos ⟨hlt, Nat.le_refl _⟩]
    rfl

end Settles

end RelaxedLoc
