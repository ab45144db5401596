import Mathlib.Data.List.Basic

/-!
# Resumable machines

A transducer reads its input item by item and emits a list of outputs for each. A run may stop
after any input and go on from the state it left (`run_append`), and a machine that reads whole
calls is related to one that reads their items by a simulation (`Simulation`): each input of the
first stands for a list of inputs of the second. One obligation about a single step carries over
to all runs (`Simulation.run`), so a proof that a call does what its items do is a proof that
cutting a text into calls does not matter.
-/

/-- A machine that emits a list of outputs for each input it reads. -/
structure Transducer (σ ι ο : Type*) where
  step : σ → ι → σ × List ο

namespace Transducer

variable {σ τ ι κ ο ξ : Type*}

/-- The state after a list of inputs, and everything emitted on the way. -/
def run (M : Transducer σ ι ο) (s : σ) : List ι → σ × List ο
  | [] => (s, [])
  | x :: xs =>
    let (s', out) := M.step s x
    let (s'', out') := M.run s' xs
    (s'', out ++ out')

/-- The state and the output after each input, in order. -/
def trace (M : Transducer σ ι ο) (s : σ) : List ι → List (σ × List ο)
  | [] => []
  | x :: xs => M.step s x :: M.trace (M.step s x).1 xs

/-- `P` holds at every step of a run, of the state before it and its input. -/
def Along (M : Transducer σ ι ο) (P : σ → ι → Prop) (s : σ) : List ι → Prop
  | [] => True
  | x :: xs => P s x ∧ M.Along P (M.step s x).1 xs

/-- One machine reading what the other emits. -/
def comp (M : Transducer σ ι κ) (N : Transducer τ κ ο) : Transducer (σ × τ) ι ο where
  step s x :=
    let (s', mid) := M.step s.1 x
    let (t', out) := N.run s.2 mid
    ((s', t'), out)

/-- The machine with every output item changed by `g`. -/
def mapOut (M : Transducer σ ι κ) (g : κ → ο) : Transducer σ ι ο where
  step s x := ((M.step s x).1, (M.step s x).2.map g)

section Run

variable (M : Transducer σ ι ο) (N : Transducer τ ο ξ)

@[simp] theorem run_nil (s : σ) : M.run s [] = (s, []) := rfl

theorem run_cons (s : σ) (x : ι) (xs : List ι) :
    M.run s (x :: xs) =
      ((M.run (M.step s x).1 xs).1, (M.step s x).2 ++ (M.run (M.step s x).1 xs).2) := rfl

@[simp] theorem run_singleton (s : σ) (x : ι) : M.run s [x] = M.step s x := by
  simp [run_cons]

/-- **A run goes on from the state it left.** -/
theorem run_append (s : σ) (xs ys : List ι) :
    M.run s (xs ++ ys) =
      ((M.run (M.run s xs).1 ys).1, (M.run s xs).2 ++ (M.run (M.run s xs).1 ys).2) := by
  induction xs generalizing s with
  | nil => simp
  | cons x xs ih => simp only [List.cons_append, run_cons, ih, List.append_assoc]

theorem comp_run (s : σ) (t : τ) (xs : List ι) :
    (M.comp N).run (s, t) xs =
      (((M.run s xs).1, (N.run t (M.run s xs).2).1), (N.run t (M.run s xs).2).2) := by
  induction xs generalizing s t with
  | nil => rfl
  | cons x xs ih =>
    have hstep : (M.comp N).step (s, t) x =
        (((M.step s x).1, (N.run t (M.step s x).2).1), (N.run t (M.step s x).2).2) := rfl
    simp only [run_cons, run_append, hstep, ih]

theorem mapOut_run (g : ο → ξ) (s : σ) (xs : List ι) :
    (M.mapOut g).run s xs = ((M.run s xs).1, (M.run s xs).2.map g) := by
  induction xs generalizing s with
  | nil => rfl
  | cons x xs ih =>
    have hstep : (M.mapOut g).step s x = ((M.step s x).1, (M.step s x).2.map g) := rfl
    simp only [run_cons, ih, hstep, List.map_append]

theorem run_invariant {P : σ → Prop} (hstep : ∀ s x, P s → P (M.step s x).1) {s : σ} (hs : P s)
    (xs : List ι) : P (M.run s xs).1 := by
  induction xs generalizing s with
  | nil => exact hs
  | cons x xs ih => exact ih (hstep s x hs)

/-- Two ways of passing the same inputs that a step cannot tell apart, as long as `P` holds. -/
theorem trace_map_congr {P : σ → Prop} {f g : κ → ι} (hP : ∀ s x, P s → P (M.step s x).1)
    (hstep : ∀ s x, P s → M.step s (f x) = M.step s (g x)) {s : σ} (hs : P s) (xs : List κ) :
    M.trace s (xs.map f) = M.trace s (xs.map g) := by
  induction xs generalizing s with
  | nil => rfl
  | cons x xs ih =>
    rw [List.map_cons, List.map_cons, trace, trace, hstep s x hs, ih (hP s (g x) hs)]

/-- What is the same at each step from states that satisfy an invariant is the same along a run. -/
theorem along_congr {I : σ → Prop} {P Q : σ → ι → Prop} (hI : ∀ s x, I s → I (M.step s x).1)
    (h : ∀ s x, I s → (P s x ↔ Q s x)) {s : σ} (hs : I s) (xs : List ι) :
    M.Along P s xs ↔ M.Along Q s xs := by
  induction xs generalizing s with
  | nil => exact Iff.rfl
  | cons x xs ih => exact and_congr (h s x hs) (ih (hI s x hs))

end Run

/-- `R` relates the states of two machines so that a step of the first on `x` does what the
second does on the inputs `f x`, emitting the same. -/
structure Simulation (M : Transducer σ ι ο) (N : Transducer τ κ ο) (R : σ → τ → Prop)
    (f : ι → List κ) : Prop where
  state : ∀ {s t}, R s t → ∀ x, R (M.step s x).1 (N.run t (f x)).1
  output : ∀ {s t}, R s t → ∀ x, (M.step s x).2 = (N.run t (f x)).2

namespace Simulation

variable {M : Transducer σ ι ο} {N : Transducer τ κ ο} {R : σ → τ → Prop} {f : ι → List κ}

/-- **Step to run**: related states stay related over any list of inputs, and the outputs agree. -/
theorem run (h : Simulation M N R f) {s : σ} {t : τ} (hst : R s t) (xs : List ι) :
    R (M.run s xs).1 (N.run t (xs.flatMap f)).1 ∧
      (M.run s xs).2 = (N.run t (xs.flatMap f)).2 := by
  induction xs generalizing s t with
  | nil => exact ⟨hst, rfl⟩
  | cons x xs ih =>
    obtain ⟨hR, hout⟩ := ih (h.state hst x)
    rw [List.flatMap_cons, run_cons, run_append]
    exact ⟨hR, by rw [h.output hst x, hout]⟩

/-- A simulation that reads input for input also agrees after each single input. -/
theorem trace {g : ι → κ} (h : Simulation M N R fun x => [g x]) {s : σ} {t : τ} (hst : R s t)
    (xs : List ι) :
    List.Forall₂ (fun a b => R a.1 b.1 ∧ a.2 = b.2) (M.trace s xs) (N.trace t (xs.map g)) := by
  induction xs generalizing s t with
  | nil => exact .nil
  | cons x xs ih =>
    have hR := h.state hst x
    have hout := h.output hst x
    rw [run_singleton] at hR hout
    exact .cons ⟨hR, hout⟩ (ih hR)

end Simulation

end Transducer
