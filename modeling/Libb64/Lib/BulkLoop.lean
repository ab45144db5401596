import Mathlib.Order.Bounds.Defs
import Libb64.Lib.OutBuf

/-!
# Bulk loops

The loop of a kernel that works through a buffer in blocks: while at least `width` items are left,
a pass reads from the source, stores to the destination, and both pointers advance, the source by
`step` items and the destination by `stride`. A pass may read further than it advances, and it may
leave the loop.

A loop computes a function `g` of the source on clean blocks when each pass stores `g` of its block
or leaves at a block that is not clean (`BulkLoop.Computes`). Then a whole run stores `g` of all it
consumed, and stops where too little is left or a block is not clean (`run_spec`).
-/

/-- How a pass through a loop's body ends. -/
inductive Pass (σ : Type*) where
  | fault
  | leave
  | next (state : σ)

/-- `for (; len >= width; s += step, d += stride, len -= step)` around a body that is given the
source, both pointers and the destination's memory. -/
structure BulkLoop (α β : Type*) where
  width : Nat
  step : Nat
  stride : Nat
  body : List α → Nat → Nat → OutBuf β → Pass (OutBuf β)
  step_pos : 0 < step
  step_le : step ≤ width

namespace BulkLoop

variable {α β : Type*}

/-- The loop with `len` items left; yields the source pointer it ends with, or `none` on a fault. -/
def run (loop : BulkLoop α β) (src : List α) (len s d : Nat) (buf : OutBuf β) :
    Option (Nat × OutBuf β) :=
  if _h : loop.width ≤ len then
    match loop.body src s d buf with
    | .fault => none
    | .leave => some (s, buf)
    | .next buf => loop.run src (len - loop.step) (s + loop.step) (d + loop.stride) buf
  else
    some (s, buf)
termination_by len
decreasing_by
  have hpos := loop.step_pos
  have hle := loop.step_le
  omega

/-- Each pass stores `g` of the block it advances over, or leaves at a block that is not clean. -/
structure Computes (loop : BulkLoop α β) (clean : α → Prop) (g : List α → List β) : Prop where
  next : ∀ (src : List α) (s d : Nat) (buf : OutBuf β), s + loop.width ≤ src.length →
    loop.stride ∣ d → (∀ c ∈ (src.drop s).take loop.step, clean c) →
    loop.body src s d buf = .next (buf.storeList d (g ((src.drop s).take loop.step)))
  leave : ∀ (src : List α) (s d : Nat) (buf : OutBuf β), s + loop.width ≤ src.length →
    ¬(∀ c ∈ (src.drop s).take loop.step, clean c) → loop.body src s d buf = .leave
  nil : g [] = []
  length : ∀ x : List α, x.length = loop.step → (∀ c ∈ x, clean c) → (g x).length = loop.stride
  append : ∀ x y : List α, loop.step ∣ x.length → (∀ c ∈ x, clean c) → g (x ++ y) = g x ++ g y

/-- Where a run over `src` may stop: after `n` clean items, in whole blocks, with no room or no
clean block behind them; unless it is at the start, the last pass had room. -/
structure Stops (loop : BulkLoop α β) (clean : α → Prop) (src : List α) (n : Nat) : Prop where
  dvd : loop.step ∣ n
  le : n ≤ src.length
  all_clean : ∀ c ∈ src.take n, clean c
  stop : src.length < n + loop.width ∨ ¬(∀ c ∈ (src.drop n).take loop.step, clean c)
  room : n = 0 ∨ n + loop.width ≤ src.length + loop.step

variable {loop : BulkLoop α β} {clean : α → Prop} {g : List α → List β}

/-- A run resumed after `s` clean items, with `g` of them stored. -/
theorem run_from (h : loop.Computes clean g) (src : List α) (buf : OutBuf β) (len s : Nat)
    (hlen : s + len = src.length) (hdvd : loop.step ∣ s) (hclean : ∀ c ∈ src.take s, clean c)
    (hroom : s = 0 ∨ s + loop.width ≤ src.length + loop.step)
    (hd : loop.stride ∣ (g (src.take s)).length) :
    ∃ n, loop.run src len s (g (src.take s)).length (buf.storeList 0 (g (src.take s))) =
        some (n, buf.storeList 0 (g (src.take n))) ∧ loop.Stops clean src n := by
  induction len using Nat.strongRecOn generalizing s with
  | _ len ih =>
    have hpos := loop.step_pos
    have hle := loop.step_le
    rw [run]
    split
    · next hwidth =>
      have hin : s + loop.width ≤ src.length := by omega
      by_cases hblock : ∀ c ∈ (src.drop s).take loop.step, clean c
      · -- the pass stores the next block, and what is stored so far is `g` of a longer prefix
        have htake : src.take (s + loop.step) = src.take s ++ (src.drop s).take loop.step :=
          List.take_add
        have hs : (src.take s).length = s := List.length_take_of_le (by omega)
        have hstep : ((src.drop s).take loop.step).length = loop.step :=
          List.length_take_of_le (by rw [List.length_drop]; omega)
        have hg : g (src.take (s + loop.step)) =
            g (src.take s) ++ g ((src.drop s).take loop.step) := by
          rw [htake]
          exact h.append _ _ (by rwa [hs]) hclean
        have hglen : (g (src.take (s + loop.step))).length =
            (g (src.take s)).length + loop.stride := by
          rw [hg, List.length_append, h.length _ hstep hblock]
        have hstored : (buf.storeList 0 (g (src.take s))).storeList (g (src.take s)).length
            (g ((src.drop s).take loop.step)) = buf.storeList 0 (g (src.take (s + loop.step))) := by
          rw [hg, OutBuf.storeList_append, Nat.zero_add]
        rw [h.next src s _ _ hin hd hblock]
        dsimp only
        rw [hstored, ← hglen]
        apply ih (len - loop.step) (by omega) (s + loop.step) (by omega)
          (Nat.dvd_add hdvd (Nat.dvd_refl _))
        · intro c hc
          rw [htake, List.mem_append] at hc
          exact hc.elim (hclean c) (hblock c)
        · right
          omega
        · rw [hglen]
          exact Nat.dvd_add hd (Nat.dvd_refl _)
      · rw [h.leave src s _ _ hin hblock]
        exact ⟨s, rfl, hdvd, by omega, hclean, .inr hblock, hroom⟩
    · next hwidth =>
      exact ⟨s, rfl, hdvd, by omega, hclean, .inl (by omega), hroom⟩

/-- **A run over a whole source** faults nowhere and stores `g` of what it consumed. -/
theorem run_spec (h : loop.Computes clean g) (src : List α) (buf : OutBuf β) :
    ∃ n, loop.run src src.length 0 0 buf = some (n, buf.storeList 0 (g (src.take n))) ∧
      loop.Stops clean src n := by
  have hstart := run_from h src buf src.length 0 (Nat.zero_add _) (Nat.dvd_zero _)
    (by simp) (.inl rfl)
  rw [List.take_zero, h.nil] at hstart
  exact hstart (Nat.dvd_zero _)

/-- Where every item is clean, a run goes on for as long as there is room. -/
theorem Stops.eq_of_forall {src : List α} {n : Nat} (h : loop.Stops clean src n)
    (hall : ∀ c, clean c) :
    n = loop.step * ((src.length - (loop.width - loop.step)) / loop.step) := by
  obtain ⟨k, rfl⟩ := h.dvd
  have hpos := loop.step_pos
  have hle := loop.step_le
  have hstop : src.length < loop.step * k + loop.width :=
    h.stop.resolve_right fun hn => hn fun c _ => hall c
  have hroom := h.room
  congr 1
  symm
  apply Nat.div_eq_of_lt_le
  · rw [Nat.mul_comm]
    rcases hroom with h0 | hroom
    · rw [h0]
      exact Nat.zero_le _
    · omega
  · rw [Nat.add_mul, Nat.one_mul, Nat.mul_comm]
    omega

/-- A run that reads no further than it advances stops at the largest multiple of `step` with only
clean items before it. -/
theorem Stops.isGreatest {src : List α} {n : Nat} (h : loop.Stops clean src n)
    (hwidth : loop.width = loop.step) :
    IsGreatest {m | loop.step ∣ m ∧ m ≤ src.length ∧ ∀ c ∈ src.take m, clean c} n := by
  refine ⟨⟨h.dvd, h.le, h.all_clean⟩, ?_⟩
  rintro m ⟨hdvd, hle, hclean⟩
  by_contra hlt
  -- a further multiple has the whole next block before it
  have hnext : n + loop.step ≤ m := by
    obtain ⟨j, rfl⟩ := hdvd
    obtain ⟨k, rfl⟩ := h.dvd
    have hkj : k + 1 ≤ j := Nat.lt_of_mul_lt_mul_left (Nat.lt_of_not_le hlt)
    have hmul := Nat.mul_le_mul_left loop.step hkj
    rwa [Nat.mul_succ] at hmul
  rcases h.stop with hstop | hstop
  · omega
  · apply hstop
    intro c hc
    apply hclean c
    have htake : src.take (n + loop.step) = src.take n ++ (src.drop n).take loop.step :=
      List.take_add
    apply List.take_subset_take_left src hnext
    rw [htake]
    exact List.mem_append_right _ hc

end BulkLoop
