import Libb64.Lib.Transducer

/-!
# Texts cut into lines

`cut c` cuts a text into lines of `c` items, `layout` ends each of them with a newline, and
`breaker` produces the same text item by item, putting a newline before each item that would not
fit on its line any more (`breaker_layout`). The breaker can be entered with any count of items on
the current line, also one above the width; the newlines it adds from there on are counted by
`breaks`. `IsBroken` says of any text behind another, with its columns counted modulo some `m`,
that its newlines stand where a line is full and nowhere else (`breaker_isBroken`).
-/

namespace Lines

variable {α β : Type*}

/-- The lines of a text, `c` items each; the last line holds what is left. -/
def cut (c : Nat) (xs : List α) : List (List α) :=
  (List.range ((xs.length + (c - 1)) / c)).map fun i => (xs.drop (c * i)).take c

/-- The text with every line ended by a newline; width 0 leaves it as it is, and the empty text
of a positive width is one empty line. -/
def layout (nl : α) (c : Nat) (xs : List α) : List α :=
  if c = 0 then xs else if xs = [] then [nl] else (cut c xs).flatMap (· ++ [nl])

/-- Items pass through, with a newline before each one that would make the line longer than `c`.
The state is the number of items on the current line. -/
def breaker (nl : α) (c : Nat) : Transducer Nat α α where
  step n x := if c ≠ 0 ∧ c ≤ n then (1, [nl, x]) else (n + 1, [x])

/-- The number of newlines the breaker puts into `m` items, entered with `n` on the line. -/
def breaks (c n m : Nat) : Nat :=
  if c = 0 then 0 else (min n c + m - 1) / c

/-- A text cut into lines of `c` items, the last line neither empty nor longer than `c`. -/
structure IsCut (c : Nat) (text : List α) (lines : List (List α)) : Prop where
  flatten_eq : lines.flatten = text
  full : ∀ l ∈ lines.dropLast, l.length = c
  last : ∀ l ∈ lines.getLast?, 0 < l.length ∧ l.length ≤ c

/-- The number of items behind the last newline. -/
def column [DecidableEq α] (nl : α) (text : List α) : Nat :=
  (text.reverse.takeWhile (· ≠ nl)).length

/-- Behind `before`, no item of `out` stands beyond column `c`, and every newline stands where the
line is full; the columns are counted modulo `m`. -/
structure IsBroken [DecidableEq α] (nl : α) (m c : Nat) (before out : List α) : Prop where
  fits : c ≠ 0 → ∀ p, p ≠ [] → p <+: out → column nl (before ++ p) % m ≤ c
  full : ∀ p, p ++ [nl] <+: out → c ≠ 0 ∧ c ≤ column nl (before ++ p) % m

/-! ## The lines of a text -/

@[simp] theorem cut_nil {c : Nat} (hc : 0 < c) : cut c ([] : List α) = [] := by
  simp [cut, Nat.div_eq_of_lt (show c - 1 < c by omega)]

theorem cut_of_le {c : Nat} {xs : List α} (h : xs.length ≤ c) (hne : xs ≠ []) :
    cut c xs = [xs] := by
  have hpos : 0 < xs.length := List.length_pos_iff.mpr hne
  have hone : (xs.length + (c - 1)) / c = 1 :=
    Nat.div_eq_of_lt_le (by omega) (by omega)
  simp [cut, hone, List.take_of_length_le h]

theorem cut_of_lt {c : Nat} (hc : 0 < c) {xs : List α} (h : c < xs.length) :
    cut c xs = xs.take c :: cut c (xs.drop c) := by
  have hdiv : (xs.length + (c - 1)) / c = (xs.length - c + (c - 1)) / c + 1 := by
    rw [show xs.length + (c - 1) = xs.length - c + (c - 1) + c by omega, Nat.add_div_right _ hc]
  simp only [cut, hdiv, List.length_drop, List.range_succ_eq_map, List.map_cons, List.map_map,
    Nat.mul_zero, List.drop_zero]
  congr 1
  apply List.map_congr_left
  intro i _
  simp [List.drop_drop, Nat.mul_add, Nat.add_comm]

theorem cut_ne_nil {c : Nat} (hc : 0 < c) {xs : List α} (hne : xs ≠ []) : cut c xs ≠ [] := by
  by_cases h : xs.length ≤ c
  · simp [cut_of_le h hne]
  · simp [cut_of_lt hc (Nat.lt_of_not_le h)]

/-- The lines are a cut of the text in the sense of `IsCut`. -/
theorem cut_isCut {c : Nat} (hc : 0 < c) (xs : List α) : IsCut c xs (cut c xs) := by
  induction hn : xs.length using Nat.strongRecOn generalizing xs with
  | _ n ih =>
    rcases eq_or_ne xs [] with rfl | hne
    · exact ⟨by simp [hc], by simp [hc], by simp [hc]⟩
    by_cases h : xs.length ≤ c
    · have hpos : 0 < xs.length := List.length_pos_iff.mpr hne
      rw [cut_of_le h hne]
      exact ⟨by simp, by simp, by simpa using ⟨hpos, h⟩⟩
    · have hlt : c < xs.length := Nat.lt_of_not_le h
      have hdrop : xs.drop c ≠ [] := by
        intro hnil
        have := congrArg List.length hnil
        simp at this
        omega
      obtain ⟨hflat, hfull, hlast⟩ := ih _ (by simp; omega) (xs.drop c) rfl
      have hcut := cut_ne_nil hc hdrop
      rw [cut_of_lt hc hlt]
      refine ⟨by simp [hflat], ?_, ?_⟩
      · intro l hl
        rw [List.dropLast_cons_of_ne_nil hcut, List.mem_cons] at hl
        rcases hl with rfl | hl
        · simp; omega
        · exact hfull l hl
      · intro l hl
        rw [List.getLast?_cons_of_ne_nil hcut] at hl
        exact hlast l hl

/-! ## The breaker -/

section Breaker

variable {nl : α} {c : Nat}

theorem breaker_run_of_fits (n : Nat) (xs : List α) (h : c = 0 ∨ n + xs.length ≤ c) :
    (breaker nl c).run n xs = (n + xs.length, xs) := by
  induction xs generalizing n with
  | nil => rfl
  | cons x xs ih =>
    have hlen : (x :: xs).length = xs.length + 1 := rfl
    have hno : ¬(c ≠ 0 ∧ c ≤ n) := by omega
    have hstep : (breaker nl c).step n x = (n + 1, [x]) := if_neg hno
    simp only [Transducer.run_cons, hstep, ih (n + 1) (by omega), hlen, List.singleton_append,
      Prod.mk.injEq, and_true]
    omega

theorem breaker_run_full (hc : 0 < c) {n : Nat} (hn : c ≤ n) (x : α) (xs : List α) :
    (breaker nl c).run n (x :: xs) =
      (((breaker nl c).run 0 (x :: xs)).1, nl :: ((breaker nl c).run 0 (x :: xs)).2) := by
  have hstep : (breaker nl c).step n x = (1, [nl, x]) := if_pos ⟨by omega, hn⟩
  have hstep' : (breaker nl c).step 0 x = (1, [x]) := if_neg (by omega)
  simp only [Transducer.run_cons, hstep, hstep', List.cons_append, List.nil_append]

/-- **The breaker writes the layout**, up to the newline after the last line. -/
theorem breaker_layout (hc : 0 < c) {xs : List α} (hne : xs ≠ []) :
    ((breaker nl c).run 0 xs).2 ++ [nl] = (cut c xs).flatMap (· ++ [nl]) := by
  induction hn : xs.length using Nat.strongRecOn generalizing xs with
  | _ n ih =>
    by_cases h : xs.length ≤ c
    · rw [breaker_run_of_fits 0 xs (by omega), cut_of_le h hne]
      simp
    · have hlt : c < xs.length := Nat.lt_of_not_le h
      obtain ⟨y, ys, hdrop⟩ : ∃ y ys, xs.drop c = y :: ys := by
        cases hd : xs.drop c with
        | nil =>
          have := congrArg List.length hd
          simp at this
          omega
        | cons y ys => exact ⟨y, ys, rfl⟩
      have htake : (xs.take c).length = c := by simp; omega
      have hrun : ((breaker nl c).run 0 xs).2 =
          xs.take c ++ nl :: ((breaker nl c).run 0 (xs.drop c)).2 := by
        conv_lhs => rw [← List.take_append_drop c xs]
        rw [Transducer.run_append, breaker_run_of_fits 0 (xs.take c) (by omega), Nat.zero_add,
          htake, hdrop, breaker_run_full hc (Nat.le_refl c)]
      have hih := ih (xs.drop c).length (by simp; omega) (by simp [hdrop]) rfl
      rw [cut_of_lt hc hlt, List.flatMap_cons, ← hih, hrun]
      simp

/-- A map that drops newlines sees the same items before and after the breaker. -/
theorem breaker_filterMap {f : α → Option β} (hnl : f nl = none) (n : Nat) (xs : List α) :
    ((breaker nl c).run n xs).2.filterMap f = xs.filterMap f := by
  induction xs generalizing n with
  | nil => rfl
  | cons x xs ih =>
    have hstep : ((breaker nl c).step n x).2.filterMap f = [x].filterMap f := by
      unfold breaker
      dsimp only
      split <;> simp [hnl]
    rw [Transducer.run_cons, List.filterMap_append, ih, hstep, ← List.filterMap_append,
      List.singleton_append]

theorem breaker_filter_ne [DecidableEq α] {xs : List α} (hnl : nl ∉ xs) (n : Nat) :
    ((breaker nl c).run n xs).2.filter (· ≠ nl) = xs := by
  rw [← List.filterMap_eq_filter, breaker_filterMap (by simp), List.filterMap_eq_filter,
    List.filter_eq_self]
  intro x hx
  simpa using ne_of_mem_of_not_mem hx hnl

variable (nl) in
/-- The first line ends where the current line is full, or with the text. -/
theorem breaker_first_line (hc : 0 < c) (n : Nat) (xs : List α) :
    ∃ rest, ((breaker nl c).run n xs).2 ++ [nl] = xs.take (c - n) ++ nl :: rest := by
  rcases eq_or_ne xs [] with rfl | hne
  · exact ⟨[], by simp⟩
  have hpos : 0 < xs.length := List.length_pos_iff.mpr hne
  by_cases hfits : n + xs.length ≤ c
  · refine ⟨[], ?_⟩
    rw [breaker_run_of_fits n xs (.inr hfits), List.take_of_length_le (by omega)]
  obtain ⟨y, ys, hdrop⟩ : ∃ y ys, xs.drop (c - n) = y :: ys :=
    List.exists_cons_of_length_pos (by rw [List.length_drop]; omega)
  obtain ⟨m, hfull, hfirst⟩ : ∃ m, c ≤ m ∧
      (breaker nl c).run n (xs.take (c - n)) = (m, xs.take (c - n)) := by
    rcases Nat.le_total n c with hn | hn
    · have hlen : (xs.take (c - n)).length = c - n := List.length_take_of_le (by omega)
      exact ⟨_, by omega, breaker_run_of_fits n _ (.inr (by omega))⟩
    · rw [Nat.sub_eq_zero_of_le hn, List.take_zero]
      exact ⟨n, hn, rfl⟩
  refine ⟨((breaker nl c).run 0 (y :: ys)).2 ++ [nl], ?_⟩
  conv_lhs => rw [← List.take_append_drop (c - n) xs]
  rw [Transducer.run_append, hfirst, hdrop, breaker_run_full hc hfull]
  simp

/-- **A line begun shows** unless nothing follows it or all of it still fits the line. -/
theorem breaker_run_eq_iff [DecidableEq α] {xs : List α} (hnl : nl ∉ xs) (n : Nat) :
    ((breaker nl c).run n xs).2 = ((breaker nl c).run 0 xs).2 ↔
      c = 0 ∨ n = 0 ∨ xs = [] ∨ n + xs.length ≤ c := by
  constructor
  · intro h
    by_contra hno
    simp only [not_or] at hno
    obtain ⟨hc, hn, hne, hlong⟩ := hno
    have hpos : 0 < xs.length := List.length_pos_iff.mpr hne
    obtain ⟨rest, hfirst⟩ := breaker_first_line nl (Nat.pos_of_ne_zero hc) n xs
    obtain ⟨rest', hfirst'⟩ := breaker_first_line nl (Nat.pos_of_ne_zero hc) 0 xs
    rw [h, hfirst'] at hfirst
    have hidx := congrArg (List.idxOf nl) hfirst
    rw [List.idxOf_append_of_notMem (mt List.mem_of_mem_take hnl),
      List.idxOf_append_of_notMem (mt List.mem_of_mem_take hnl), List.idxOf_cons_self,
      List.idxOf_cons_self, List.length_take, List.length_take] at hidx
    omega
  · rintro (rfl | rfl | rfl | hfits)
    · rw [breaker_run_of_fits n xs (.inl rfl), breaker_run_of_fits 0 xs (.inl rfl)]
    · rfl
    · rfl
    · rw [breaker_run_of_fits n xs (.inr hfits), breaker_run_of_fits 0 xs (.inr (by omega))]

@[simp] theorem breaks_zero_width (n m : Nat) : breaks 0 n m = 0 := rfl

@[simp] theorem breaks_nil (c n : Nat) : breaks c n 0 = 0 := by
  unfold breaks
  split
  · rfl
  · exact Nat.div_eq_of_lt (by omega)

theorem breaks_succ (c n m : Nat) :
    breaks c n (m + 1) =
      if c ≠ 0 ∧ c ≤ n then breaks c 1 m + 1 else breaks c (n + 1) m := by
  by_cases hc : c = 0
  · simp [hc]
  by_cases hn : c ≤ n
  · have hmin : min 1 c = 1 := by omega
    simp only [breaks, hc, hn, hmin, ne_eq, not_false_eq_true, and_self, if_true, if_false]
    rw [show min n c + (m + 1) - 1 = 1 + m - 1 + c by omega, Nat.add_div_right _ (by omega)]
  · simp only [breaks, hc, hn, if_false, and_false]
    congr 1
    omega

theorem length_breaker_run (n : Nat) (xs : List α) :
    ((breaker nl c).run n xs).2.length = xs.length + breaks c n xs.length := by
  induction xs generalizing n with
  | nil => simp
  | cons x xs ih =>
    rw [Transducer.run_cons, List.length_append, ih, List.length_cons, breaks_succ]
    by_cases h : c ≠ 0 ∧ c ≤ n
    · have hstep : (breaker nl c).step n x = (1, [nl, x]) := if_pos h
      rw [hstep, if_pos h]
      simp
      omega
    · have hstep : (breaker nl c).step n x = (n + 1, [x]) := if_neg h
      rw [hstep, if_neg h]
      simp
      omega

end Breaker

/-! ## Columns -/

section Columns

variable [DecidableEq α] {nl x : α} {m c : Nat} {before out : List α}

@[simp] theorem column_nil (nl : α) : column nl ([] : List α) = 0 := rfl

@[simp] theorem column_newline (text : List α) : column nl (text ++ [nl]) = 0 := by
  simp [column]

theorem column_item (hx : x ≠ nl) (text : List α) :
    column nl (text ++ [x]) = column nl text + 1 := by
  simp [column, hx]

namespace IsBroken

theorem nil : IsBroken nl m c before [] where
  fits _ p hp hpre := absurd (List.prefix_nil.mp hpre) hp
  full p hpre := absurd (List.prefix_nil.mp hpre) (List.append_ne_nil_of_right_ne_nil p (by simp))

theorem cons (hfits : c ≠ 0 → column nl (before ++ [x]) % m ≤ c)
    (hfull : x = nl → c ≠ 0 ∧ c ≤ column nl before % m)
    (h : IsBroken nl m c (before ++ [x]) out) : IsBroken nl m c before (x :: out) where
  fits hc p hp hpre := by
    cases p with
    | nil => exact absurd rfl hp
    | cons y p =>
      obtain ⟨rfl, htail⟩ := List.cons_prefix_cons.mp hpre
      rcases eq_or_ne p [] with rfl | hne
      · exact hfits hc
      · simpa using h.fits hc p hne htail
  full p hpre := by
    cases p with
    | nil =>
      obtain ⟨rfl, -⟩ := List.cons_prefix_cons.mp hpre
      simpa using hfull rfl
    | cons y p =>
      obtain ⟨rfl, htail⟩ := List.cons_prefix_cons.mp hpre
      simpa using h.full p htail

end IsBroken

/-- **The breaker breaks full lines and no others**, and goes on counting the columns, also behind
a text it has not written itself. -/
theorem breaker_isBroken (hm : c < m) {xs : List α} (hnl : nl ∉ xs) {n : Nat}
    (hn : n % m = column nl before % m) (hlt : c = 0 ∨ n < m) :
    let r := (breaker nl c).run n xs
    IsBroken nl m c before r.2 ∧ r.1 % m = column nl (before ++ r.2) % m ∧ (c = 0 ∨ r.1 < m) := by
  induction xs generalizing n before with
  | nil => exact ⟨.nil, by simpa using hn, hlt⟩
  | cons x xs ih =>
    have hx : x ≠ nl := fun h => hnl (h ▸ List.mem_cons_self)
    have hxs : nl ∉ xs := fun h => hnl (List.mem_cons_of_mem x h)
    by_cases hfull : c ≠ 0 ∧ c ≤ n
    · -- the line is full: a newline, and the item opens the next one
      have hstep : (breaker nl c).step n x = (1, [nl, x]) := if_pos hfull
      have hone : column nl (before ++ [nl] ++ [x]) = 1 := by
        rw [column_item hx, column_newline]
      have hmod : 1 % m = 1 := Nat.mod_eq_of_lt (by omega)
      have hcol : 1 % m = column nl (before ++ [nl] ++ [x]) % m := by rw [hone]
      obtain ⟨hbroken, hcount, hlt'⟩ := ih hxs hcol (by omega)
      have hnm : n % m = n := Nat.mod_eq_of_lt (by omega)
      have htwo : IsBroken nl m c (before ++ [nl]) (x :: _) :=
        .cons (fun _ => by rw [hone, hmod]; omega) (fun h => absurd h hx) hbroken
      rw [Transducer.run_cons, hstep]
      refine ⟨.cons (fun _ => by simp) (fun _ => ⟨hfull.1, by omega⟩) htwo, ?_, hlt'⟩
      simpa using hcount
    · have hstep : (breaker nl c).step n x = (n + 1, [x]) := if_neg hfull
      have hcol : (n + 1) % m = column nl (before ++ [x]) % m := by
        rw [column_item hx, Nat.add_mod, hn, ← Nat.add_mod]
      obtain ⟨hbroken, hcount, hlt'⟩ := ih hxs hcol (by omega)
      rw [Transducer.run_cons, hstep]
      refine ⟨.cons (fun hc => ?_) (fun h => absurd h hx) hbroken, by simpa using hcount, hlt'⟩
      rw [← hcol, Nat.mod_eq_of_lt (by omega)]
      omega

end Columns

/-! ## The layout -/

theorem layout_filterMap {f : α → Option β} {nl : α} (hnl : f nl = none) (c : Nat) (xs : List α) :
    (layout nl c xs).filterMap f = xs.filterMap f := by
  unfold layout
  split
  · rfl
  · split
    · next h => simp [h, hnl]
    · next hc h =>
      rw [← breaker_layout (Nat.pos_of_ne_zero hc) h, List.filterMap_append,
        breaker_filterMap hnl]
      simp [hnl]

theorem length_layout (nl : α) (c : Nat) (xs : List α) :
    (layout nl c xs).length =
      xs.length + (if c = 0 then 0 else (xs.length - 1) / c + 1) := by
  unfold layout
  split
  · simp
  · split
    · next h => simp [h]
    · next hc h =>
      rw [← breaker_layout (Nat.pos_of_ne_zero hc) h, List.length_append, length_breaker_run]
      simp only [breaks, hc, if_false, Nat.zero_min, Nat.zero_add, List.length_singleton]
      omega

theorem layout_filter_ne [DecidableEq α] {nl : α} {xs : List α} (hnl : nl ∉ xs) (c : Nat) :
    (layout nl c xs).filter (· ≠ nl) = xs := by
  rw [← List.filterMap_eq_filter, layout_filterMap (by simp), List.filterMap_eq_filter,
    List.filter_eq_self]
  intro x hx
  simpa using ne_of_mem_of_not_mem hx hnl

theorem idxOf_layout [DecidableEq α] {nl : α} {xs : List α} (hnl : nl ∉ xs) {c : Nat}
    (hc : 0 < c) : (layout nl c xs).idxOf nl = min c xs.length := by
  have hfirst : ∃ rest, layout nl c xs = xs.take c ++ nl :: rest := by
    rw [layout, if_neg (by omega)]
    split
    · next h => exact ⟨[], by simp [h]⟩
    · next h => exact breaker_layout hc h ▸ breaker_first_line nl hc 0 xs
  obtain ⟨rest, hfirst⟩ := hfirst
  rw [hfirst, List.idxOf_append_of_notMem (mt List.mem_of_mem_take hnl), List.idxOf_cons_self,
    List.length_take, Nat.add_zero]

/-- **A layout tells the text and the width**, except for widths that leave it on one line. -/
theorem layout_eq_iff [DecidableEq α] {nl : α} {xs ys : List α} (hxs : nl ∉ xs) (hys : nl ∉ ys)
    (c d : Nat) : layout nl c xs = layout nl d ys ↔
      xs = ys ∧ (c = d ∨ 0 < c ∧ 0 < d ∧ xs.length ≤ min c d) := by
  constructor
  · intro h
    have heq : xs = ys := by
      rw [← layout_filter_ne hxs c, h, layout_filter_ne hys d]
    subst heq
    refine ⟨rfl, ?_⟩
    have hlen := congrArg List.length h
    rw [length_layout, length_layout] at hlen
    have hwrapped : c = 0 ↔ d = 0 := by
      have hsame := Nat.add_left_cancel hlen
      split at hsame <;> split at hsame
      · omega
      · exact absurd hsame.symm (Nat.succ_ne_zero _)
      · exact absurd hsame (Nat.succ_ne_zero _)
      · omega
    rcases Nat.eq_zero_or_pos c with hc | hc
    · omega
    have hd : 0 < d := by omega
    have hidx := congrArg (List.idxOf nl) h
    rw [idxOf_layout hxs hc, idxOf_layout hxs hd] at hidx
    omega
  · rintro ⟨rfl, rfl | ⟨hc, hd, hlen⟩⟩
    · rfl
    have hc' : c ≠ 0 := by omega
    have hd' : d ≠ 0 := by omega
    rcases eq_or_ne xs [] with rfl | hne
    · simp [layout, hc', hd']
    · simp [layout, hc', hd', cut_of_le (show xs.length ≤ c by omega) hne,
        cut_of_le (show xs.length ≤ d by omega) hne]

end Lines
