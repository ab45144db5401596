import Mathlib.Data.List.Basic

/-!
# Output buffers

An output buffer is the memory behind a pointer a caller passed in: what each index holds, also
before anything was stored there, and the indices stored to so far. Runs of stores are read back
with `slice`.
-/

/-- The memory behind an output pointer, and the indices stored to, newest first. -/
structure OutBuf (α : Type*) where
  read : Nat → α
  stores : List Nat

namespace OutBuf

variable {α : Type*}

/-- A buffer nothing has been stored to yet; its contents are whatever the caller left there. -/
def fresh (contents : Nat → α) : OutBuf α := ⟨contents, []⟩

def store (b : OutBuf α) (i : Nat) (x : α) : OutBuf α :=
  ⟨fun j => if j = i then x else b.read j, i :: b.stores⟩

/-- Consecutive stores from `i` on. -/
def storeList (b : OutBuf α) (i : Nat) : List α → OutBuf α
  | [] => b
  | x :: xs => (b.store i x).storeList (i + 1) xs

/-- The `n` items from index `i` on. -/
def slice (b : OutBuf α) (i n : Nat) : List α :=
  (List.range' i n).map b.read

/-- The memory from index `o` on, as a function sees it that is passed a pointer there. -/
def window (b : OutBuf α) (o : Nat) : OutBuf α := ⟨fun j => b.read (o + j), []⟩

/-- The buffer after such a function has left `w` behind. -/
def patch (b : OutBuf α) (o : Nat) (w : OutBuf α) : OutBuf α :=
  ⟨fun j => if j < o then b.read j else w.read (j - o), w.stores.map (o + ·) ++ b.stores⟩

@[simp] theorem read_store_self (b : OutBuf α) (i : Nat) (x : α) : (b.store i x).read i = x := by
  simp [store]

theorem read_store_of_ne (b : OutBuf α) {i j : Nat} (x : α) (h : j ≠ i) :
    (b.store i x).read j = b.read j := by
  simp [store, h]

@[simp] theorem stores_store (b : OutBuf α) (i : Nat) (x : α) :
    (b.store i x).stores = i :: b.stores := rfl

@[simp] theorem stores_fresh (contents : Nat → α) : (fresh contents).stores = [] := rfl

theorem storeList_append (b : OutBuf α) (i : Nat) (xs ys : List α) :
    b.storeList i (xs ++ ys) = (b.storeList i xs).storeList (i + xs.length) ys := by
  induction xs generalizing b i with
  | nil => rfl
  | cons x xs ih =>
    rw [List.cons_append, storeList, ih, storeList, List.length_cons, Nat.add_assoc,
      Nat.add_comm 1]

theorem read_storeList_of_lt (b : OutBuf α) {i j : Nat} (xs : List α) (h : j < i) :
    (b.storeList i xs).read j = b.read j := by
  induction xs generalizing b i with
  | nil => rfl
  | cons x xs ih => rw [storeList, ih _ (by omega), read_store_of_ne _ _ (by omega)]

theorem mem_stores_storeList {b : OutBuf α} {i j : Nat} {xs : List α} :
    j ∈ (b.storeList i xs).stores ↔ j ∈ b.stores ∨ i ≤ j ∧ j < i + xs.length := by
  induction xs generalizing b i with
  | nil =>
    refine ⟨.inl, ?_⟩
    rintro (h | h)
    · exact h
    · simp at h
      omega
  | cons x xs ih =>
    rw [storeList, ih, stores_store, List.mem_cons, List.length_cons]
    constructor
    · rintro ((rfl | h) | h)
      · right; omega
      · exact .inl h
      · right; omega
    · rintro (h | h)
      · exact .inl (.inr h)
      · by_cases hj : j = i
        · exact .inl (.inl hj)
        · right; omega

@[simp] theorem length_slice (b : OutBuf α) (i n : Nat) : (b.slice i n).length = n := by
  simp [slice]

@[simp] theorem slice_zero (b : OutBuf α) (i : Nat) : b.slice i 0 = [] := rfl

theorem slice_succ (b : OutBuf α) (i n : Nat) :
    b.slice i (n + 1) = b.read i :: b.slice (i + 1) n := by
  simp [slice, List.range'_succ]

theorem slice_append (b : OutBuf α) (i m n : Nat) :
    b.slice i (m + n) = b.slice i m ++ b.slice (i + m) n := by
  rw [slice, ← List.range'_append_1, List.map_append]
  rfl

theorem slice_congr {b b' : OutBuf α} {i n : Nat}
    (h : ∀ j, i ≤ j → j < i + n → b.read j = b'.read j) : b.slice i n = b'.slice i n := by
  apply List.map_congr_left
  intro j hj
  rw [List.mem_range'_1] at hj
  exact h j hj.1 hj.2

theorem slice_storeList (b : OutBuf α) (i : Nat) (xs : List α) :
    (b.storeList i xs).slice i xs.length = xs := by
  induction xs generalizing b i with
  | nil => rfl
  | cons x xs ih =>
    rw [storeList, List.length_cons, slice_succ, ih, read_storeList_of_lt _ _ (by omega),
      read_store_self]

theorem slice_storeList_append (b : OutBuf α) (i : Nat) (xs ys : List α) :
    (b.storeList i (xs ++ ys)).slice i xs.length = xs := by
  rw [storeList_append]
  refine (slice_congr fun j _ hj => ?_).trans (slice_storeList b i xs)
  exact read_storeList_of_lt _ _ hj

/-! ## Windows -/

theorem patch_window (b : OutBuf α) (o : Nat) : b.patch o (b.window o) = b := by
  have hread : (fun j => if j < o then b.read j else b.read (o + (j - o))) = b.read := by
    funext j
    split
    · rfl
    · rw [show o + (j - o) = j by omega]
  rw [patch, window]
  dsimp only
  rw [hread, List.map_nil, List.nil_append]

theorem patch_store (b : OutBuf α) (o : Nat) (w : OutBuf α) (i : Nat) (x : α) :
    b.patch o (w.store i x) = (b.patch o w).store (o + i) x := by
  have hread : ∀ j, (if j < o then b.read j else if j - o = i then x else w.read (j - o)) =
      if j = o + i then x else if j < o then b.read j else w.read (j - o) := by
    intro j
    by_cases hj : j < o
    · rw [if_pos hj, if_neg (by omega), if_pos hj]
    · by_cases hi : j - o = i
      · rw [if_neg hj, if_pos hi, if_pos (by omega)]
      · rw [if_neg hj, if_neg hi, if_neg (by omega), if_neg hj]
  simp only [patch, store, hread, List.map_cons, List.cons_append]

/-- Stores through a pointer are stores to the buffer. -/
theorem patch_storeList (b : OutBuf α) (o : Nat) (xs : List α) :
    b.patch o ((b.window o).storeList 0 xs) = b.storeList o xs := by
  have hall : ∀ (w : OutBuf α) (i : Nat),
      b.patch o (w.storeList i xs) = (b.patch o w).storeList (o + i) xs := by
    induction xs with
    | nil => intro w i; rfl
    | cons x xs ih =>
      intro w i
      rw [storeList, ih, patch_store]
      rfl
  rw [hall, patch_window, Nat.add_zero]

end OutBuf
