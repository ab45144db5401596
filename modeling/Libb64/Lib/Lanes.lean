import Mathlib.Algebra.Group.Nat.Defs
import Mathlib.Data.List.Basic

/-!
# Lanes of a vector register

A vector register is a bit vector. Its lanes of width `w` are its slices of `w` bits, the first
one lowest, so that reading the same register in lanes of another width moves nothing: this is the
layout of a little-endian machine. A register is given by its lanes (`ofLanes`), a lanewise
operation is seen through them (`lane_map`, `lane_zip`), and a wide lane is its two halves
(`lane_halves`).
-/

namespace Lanes

variable {n w : Nat}

/-- Lane `i` of width `w`. -/
def lane (w : Nat) (v : BitVec n) (i : Nat) : BitVec w :=
  v.extractLsb' (w * i) w

/-- The register of `n` bits with the given lanes. -/
def ofLanes (n : Nat) {w : Nat} (f : Nat → BitVec w) : BitVec n :=
  (BitVec.ofBoolListLE ((List.range n).map fun b => (f (b / w)).getLsbD (b % w))).cast (by simp)

/-- An operation on each lane. -/
def map (w : Nat) (f : BitVec w → BitVec w) (v : BitVec n) : BitVec n :=
  ofLanes n fun i => f (lane w v i)

/-- An operation on each pair of lanes. -/
def zip (w : Nat) (f : BitVec w → BitVec w → BitVec w) (a b : BitVec n) : BitVec n :=
  ofLanes n fun i => f (lane w a i) (lane w b i)

/-- The first `k` lanes of width `w`, in order. -/
def toList (w : Nat) (v : BitVec n) (k : Nat) : List (BitVec w) :=
  (List.range k).map (lane w v)

theorem getLsbD_lane {v : BitVec n} {i b : Nat} (hb : b < w) :
    (lane w v i).getLsbD b = v.getLsbD (w * i + b) := by
  simp [lane, hb]

theorem getLsbD_ofLanes {f : Nat → BitVec w} {b : Nat} (hb : b < n) :
    (ofLanes n f).getLsbD b = (f (b / w)).getLsbD (b % w) := by
  rw [ofLanes, BitVec.getLsbD_cast, BitVec.getLsbD_ofBoolListLE, List.getD_eq_getElem?_getD,
    List.getElem?_map, List.getElem?_range hb]
  rfl

theorem lane_ofLanes {f : Nat → BitVec w} {i : Nat} (hi : w * (i + 1) ≤ n) :
    lane w (ofLanes n f) i = f i := by
  apply BitVec.eq_of_getLsbD_eq
  intro b hb
  have hlt : w * i + b < n := by
    rw [Nat.mul_succ] at hi
    omega
  rw [getLsbD_lane hb, getLsbD_ofLanes hlt, Nat.mul_add_div (by omega), Nat.div_eq_of_lt hb,
    Nat.add_zero, Nat.mul_add_mod, Nat.mod_eq_of_lt hb]

theorem lane_lane (v : BitVec n) {k i j : Nat} (hj : j < k) :
    lane w (lane (w * k) v i) j = lane w v (k * i + j) := by
  apply BitVec.eq_of_getLsbD_eq
  intro b hb
  have hin : w * j + b < w * k := by
    have hmul := Nat.mul_le_mul_left w hj
    rw [Nat.mul_succ] at hmul
    omega
  rw [getLsbD_lane hb, getLsbD_lane hin, getLsbD_lane hb, Nat.mul_add, Nat.mul_assoc,
    Nat.add_assoc]

theorem lane_map {f : BitVec w → BitVec w} {v : BitVec n} {i : Nat} (hi : w * (i + 1) ≤ n) :
    lane w (map w f v) i = f (lane w v i) :=
  lane_ofLanes hi

theorem lane_zip {f : BitVec w → BitVec w → BitVec w} {a b : BitVec n} {i : Nat}
    (hi : w * (i + 1) ≤ n) : lane w (zip w f a b) i = f (lane w a i) (lane w b i) :=
  lane_ofLanes hi

theorem lane_and (a b : BitVec n) (i : Nat) : lane w (a &&& b) i = lane w a i &&& lane w b i := by
  apply BitVec.eq_of_getLsbD_eq
  intro c hc
  simp [getLsbD_lane hc]

theorem lane_or (a b : BitVec n) (i : Nat) : lane w (a ||| b) i = lane w a i ||| lane w b i := by
  apply BitVec.eq_of_getLsbD_eq
  intro c hc
  simp [getLsbD_lane hc]

theorem lane_halves (w : Nat) (v : BitVec n) (i : Nat) :
    lane (w + w) v i = lane w v (2 * i + 1) ++ lane w v (2 * i) := by
  apply BitVec.eq_of_getLsbD_eq
  intro b hb
  have hlow : w * (2 * i) = (w + w) * i := by
    rw [← Nat.two_mul, Nat.mul_comm 2 w, Nat.mul_assoc]
  rw [getLsbD_lane hb, BitVec.getLsbD_append]
  split
  · next h => rw [getLsbD_lane h, hlow]
  · next h =>
    rw [getLsbD_lane (by omega), Nat.mul_succ, hlow]
    congr 1
    omega

theorem ext_lane {k : Nat} {a b : BitVec (w * k)} (h : ∀ i < k, lane w a i = lane w b i) :
    a = b := by
  apply BitVec.eq_of_getLsbD_eq
  intro c hc
  have hw : 0 < w := by
    rcases Nat.eq_zero_or_pos w with rfl | hw
    · simp at hc
    · exact hw
  have hmod : c % w < w := Nat.mod_lt c hw
  have hbit := congrArg (BitVec.getLsbD · (c % w)) (h (c / w) (Nat.div_lt_of_lt_mul hc))
  simpa only [getLsbD_lane hmod, Nat.div_add_mod] using hbit

theorem eq_zero_iff {v : BitVec n} {k : Nat} (hn : n = w * k) :
    v = 0 ↔ ∀ i < k, lane w v i = 0 := by
  subst hn
  constructor
  · rintro rfl i _
    simp [lane]
  · intro h
    apply ext_lane
    intro i hi
    rw [h i hi]
    simp [lane]

/-! ## Lists of lanes -/

/-- The first `m * k` numbers in rows of `k`. -/
theorem range_mul (k m : Nat) :
    List.range (k * m) = (List.range m).flatMap fun i => (List.range k).map (k * i + ·) := by
  induction m with
  | zero => rfl
  | succ m ih =>
    rw [List.range_succ, List.flatMap_append, ← ih, Nat.mul_succ, List.range_add]
    simp

theorem toList_mul (v : BitVec n) (k m : Nat) :
    toList w v (k * m) =
      (List.range m).flatMap fun i => (List.range k).map fun j => lane w v (k * i + j) := by
  rw [toList, range_mul, List.map_flatMap]
  simp [Function.comp_def]

end Lanes
