import Libb64.Lib.BitString
import Libb64.Lib.Transducer

/-!
# Regrouping as a resumable machine

The machine reads digits of one width and emits digits of another as soon as they are complete. Its
state is the bits read and not yet emitted. `regroup_run` says what a whole run does in terms of
bit strings, whatever was left over before it.
-/

namespace BitString

variable {v w : Nat}

/-- Reads digits of `v` bits, emits complete digits of `w` bits; the state is the bits between. -/
def regroup (v w : Nat) : Transducer (List Bool) (BitVec v) (BitVec w) where
  step q d := (rest w (q ++ ofDigit d), groups w (q ++ ofDigit d))

theorem length_rest_lt (hw : 0 < w) (bs : List Bool) : (rest w bs).length < w := by
  rw [length_rest]
  exact Nat.mod_lt _ hw

/-- **A run emits the complete groups** of the bits left over and the bits read. -/
theorem regroup_run (hw : 0 < w) {q : List Bool} (hq : q.length < w) (ds : List (BitVec v)) :
    (regroup v w).run q ds = (rest w (q ++ ofDigits ds), groups w (q ++ ofDigits ds)) := by
  induction ds generalizing q with
  | nil => simp [rest_of_lt hq, groups_of_lt hq]
  | cons d ds ih =>
    have hstep : (regroup v w).step q d =
        (rest w (q ++ ofDigit d), groups w (q ++ ofDigit d)) := rfl
    rw [Transducer.run_cons, hstep, ih (length_rest_lt hw _), ofDigits_cons, ← List.append_assoc,
      groups_append hw (q ++ ofDigit d), rest_append hw (q ++ ofDigit d)]

end BitString
