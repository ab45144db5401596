import Libb64.Alloc

/-!
# Accounting for blocks

The calls an allocator has had, together with its answers, say which blocks a run obtained and has
not given back (`Outstanding`). Each exit of a function is followed call by call: a request adds
the block it is answered with, giving a block back takes it off.
-/

namespace Libb64

variable {T : Target}

/-- The answer without the way it was given. -/
def ReallocReply.ptr : ReallocReply → Option Nat
  | .block p => some p
  | .null => none
  | .badAlloc => none

/-- The blocks a callback's answers give. -/
def B64Allocator.answer (alloc : B64Allocator T) (calls : List (ReallocCall T))
    (call : ReallocCall T) : Option Nat :=
  (alloc.reallocFn calls call).ptr

/-- Follows the calls `new`, made after `calls`, with the blocks `held` at hand: `none` if one of
them resizes a block, gives back what is not held, or has another lifetime hint. -/
def replay (answer : List (ReallocCall T) → ReallocCall T → Option Nat) (life : B64Memlife)
    (calls : List (ReallocCall T)) (held : List Nat) : List (ReallocCall T) → Option (List Nat)
  | [] => some held
  | call :: new =>
    if call.life ≠ life then
      none
    else
      match call.ptr with
      | none => replay answer life (calls ++ [call]) ((answer calls call).toList ++ held) new
      | some p =>
        if call.size = 0 ∧ p ∈ held then
          replay answer life (calls ++ [call]) (held.erase p) new
        else
          none

/-- From `calls` on, the calls made with the hint `life` have left the blocks `held` to give
back. -/
def Outstanding (answer : List (ReallocCall T) → ReallocCall T → Option Nat) (life : B64Memlife)
    (calls calls' : List (ReallocCall T)) (held : List Nat) : Prop :=
  ∃ new, calls' = calls ++ new ∧ replay answer life calls [] new = some held

section Replay

variable {answer : List (ReallocCall T) → ReallocCall T → Option Nat} {life : B64Memlife}
  {calls calls' : List (ReallocCall T)} {held : List Nat}

theorem replay_append (held : List Nat) (new new' : List (ReallocCall T)) :
    replay answer life calls held (new ++ new') =
      (replay answer life calls held new).bind fun held' =>
        replay answer life (calls ++ new) held' new' := by
  induction new generalizing calls held with
  | nil => simp [replay]
  | cons call new ih =>
    simp only [List.cons_append, replay]
    split
    · rfl
    · split
      · rw [ih, List.append_assoc, List.singleton_append]
      · split
        · rw [ih, List.append_assoc, List.singleton_append]
        · rfl

namespace Outstanding

theorem refl (answer : List (ReallocCall T) → ReallocCall T → Option Nat) (life : B64Memlife)
    (calls : List (ReallocCall T)) : Outstanding answer life calls calls [] :=
  ⟨[], by simp, rfl⟩

theorem granted (h : Outstanding answer life calls calls' held) {size : T.SizeT} {p : Nat}
    (hp : answer calls' { ptr := none, size, life } = some p) :
    Outstanding answer life calls (calls' ++ [{ ptr := none, size, life }]) (p :: held) := by
  obtain ⟨new, rfl, hnew⟩ := h
  refine ⟨new ++ [{ ptr := none, size, life }], by simp, ?_⟩
  simp [replay_append, hnew, replay, hp]

theorem refused (h : Outstanding answer life calls calls' held) {size : T.SizeT}
    (hnone : answer calls' { ptr := none, size, life } = none) :
    Outstanding answer life calls (calls' ++ [{ ptr := none, size, life }]) held := by
  obtain ⟨new, rfl, hnew⟩ := h
  refine ⟨new ++ [{ ptr := none, size, life }], by simp, ?_⟩
  simp [replay_append, hnew, replay, hnone]

theorem giveBack (h : Outstanding answer life calls calls' held) {p : Nat} (hp : p ∈ held) :
    Outstanding answer life calls (calls' ++ [{ ptr := some p, size := 0, life }])
      (held.erase p) := by
  obtain ⟨new, rfl, hnew⟩ := h
  refine ⟨new ++ [{ ptr := some p, size := 0, life }], by simp, ?_⟩
  simp [replay_append, hnew, replay, hp]

theorem unique {held' : List Nat} (h : Outstanding answer life calls calls' held)
    (h' : Outstanding answer life calls calls' held') : held = held' := by
  obtain ⟨new, hcalls, hnew⟩ := h
  obtain ⟨new', hcalls', hnew'⟩ := h'
  have heq : new = new' := List.append_cancel_left (hcalls.symm.trans hcalls')
  rw [heq, hnew', Option.some.injEq] at hnew
  exact hnew.symm

end Outstanding

end Replay

end Libb64
