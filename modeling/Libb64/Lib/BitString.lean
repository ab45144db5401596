import Mathlib.Algebra.Group.Nat.Defs
import Mathlib.Data.List.Basic

/-!
# Big-endian bit strings and their regrouping

A digit of width `w` is a `BitVec w`. A list of digits spells a bit string, most significant bit
first (`ofDigits`), and a bit string is read back as digits of any width: the complete groups
(`groups`), the bits after the last complete one (`rest`), and all bits with the last group filled
up with zeros (`padded`).

* Reading may stop anywhere and go on later with the bits left over (`groups_append`,
  `rest_append`).
* Padding to a narrower width loses nothing: the complete groups of the wider width are the digits
  one started from (`groups_ofDigits_padded`), and the padded text is the only one whose bits are
  the given ones followed by fewer than `w` zeros (`padded_unique`).
-/

namespace BitString

variable {v w : Nat}

/-- The bits of a digit, most significant first. -/
def ofDigit (d : BitVec w) : List Bool :=
  (List.range w).map d.getMsbD

/-- The bit string that a list of digits spells. -/
def ofDigits (ds : List (BitVec w)) : List Bool :=
  ds.flatMap ofDigit

/-- The digit spelled by the first `w` bits of a string; missing bits count as zeros. -/
def digit (w : Nat) (bs : List Bool) : BitVec w :=
  (BitVec.ofBoolListBE ((bs ++ List.replicate w false).take w)).cast (by simp)

/-- The complete groups of `w` bits. -/
def groups (w : Nat) (bs : List Bool) : List (BitVec w) :=
  (List.range (bs.length / w)).map fun i => digit w (bs.drop (w * i))

/-- The bits after the last complete group. -/
def rest (w : Nat) (bs : List Bool) : List Bool :=
  bs.drop (w * (bs.length / w))

/-- All groups of `w` bits, an incomplete last one filled up with zeros. -/
def padded (w : Nat) (bs : List Bool) : List (BitVec w) :=
  if rest w bs = [] then groups w bs else groups w bs ++ [digit w (rest w bs)]

/-- A fact about all digits of a width, checked one by one. -/
theorem forall_of_all {p : BitVec w → Bool}
    (h : (List.range (2 ^ w)).all (fun i => p (BitVec.ofNat w i)) = true) (d : BitVec w) :
    p d = true := by
  have hd := List.all_eq_true.mp h d.toNat (List.mem_range.mpr d.isLt)
  rwa [BitVec.ofNat_toNat, BitVec.setWidth_eq] at hd

/-- The same for the entries of a table with one place for each digit: one pass over the table. -/
theorem forall_of_all_table {α : Type} (p : α → BitVec w → Bool) {table : List α} (e : α)
    (hlen : table.length = 2 ^ w)
    (h : (table.zip (List.range (2 ^ w))).all (fun x => p x.1 (BitVec.ofNat w x.2)) = true)
    (d : BitVec w) : p (table.getD d.toNat e) d = true := by
  have hd : d.toNat < table.length := hlen ▸ d.isLt
  have hzip : d.toNat < (table.zip (List.range (2 ^ w))).length := by
    rw [List.length_zip, List.length_range, hlen, Nat.min_self]
    exact d.isLt
  have hall := List.all_eq_true.mp h _ (List.getElem_mem hzip)
  rw [List.getElem_zip, List.getElem_range, BitVec.ofNat_toNat, BitVec.setWidth_eq] at hall
  rwa [List.getD_eq_getElem?_getD, List.getElem?_eq_getElem hd, Option.getD_some]

/-! ## One digit -/

@[simp] theorem length_ofDigit (d : BitVec w) : (ofDigit d).length = w := by
  simp [ofDigit]

@[simp] theorem ofDigits_nil : ofDigits ([] : List (BitVec w)) = [] := rfl

@[simp] theorem ofDigits_cons (d : BitVec w) (ds : List (BitVec w)) :
    ofDigits (d :: ds) = ofDigit d ++ ofDigits ds := rfl

@[simp] theorem ofDigits_append (ds es : List (BitVec w)) :
    ofDigits (ds ++ es) = ofDigits ds ++ ofDigits es := by
  simp [ofDigits]

@[simp] theorem length_ofDigits (ds : List (BitVec w)) :
    (ofDigits ds).length = w * ds.length := by
  induction ds with
  | nil => simp
  | cons d ds ih => simp [ih, Nat.mul_add, Nat.add_comm]

theorem getMsbD_digit {bs : List Bool} {i : Nat} (hi : i < w) :
    (digit w bs).getMsbD i = bs.getD i false := by
  have hcast : (digit w bs).getMsbD i =
      (BitVec.ofBoolListBE ((bs ++ List.replicate w false).take w)).getMsbD i := by
    simp [digit, BitVec.getMsbD]
  rw [hcast, BitVec.getMsbD_ofBoolListBE]
  simp only [List.getD_eq_getElem?_getD, List.getElem?_take, hi, if_true, List.getElem?_append]
  by_cases h : i < bs.length
  · simp [h]
  · have hr : i - bs.length < w := by omega
    simp [h, hr]

theorem getElem?_ofDigit {d : BitVec w} {i : Nat} (hi : i < w) :
    (ofDigit d)[i]? = some (d.getMsbD i) := by
  simp [ofDigit, hi]

/-- The bits of a digit read off a string: the string's first bits, then zeros. -/
theorem ofDigit_digit (bs : List Bool) :
    ofDigit (digit w bs) = (bs ++ List.replicate w false).take w := by
  apply List.ext_getElem?
  intro i
  by_cases hi : i < w
  · rw [getElem?_ofDigit hi, getMsbD_digit hi, List.getElem?_take, if_pos hi,
      List.getElem?_append]
    by_cases h : i < bs.length
    · simp [h]
    · have hr : i - bs.length < w := by omega
      simp [h, hr]
  · rw [List.getElem?_eq_none (by simp; omega), List.getElem?_eq_none (by simp; omega)]

theorem ofDigit_digit_of_le {bs : List Bool} (h : w ≤ bs.length) :
    ofDigit (digit w bs) = bs.take w := by
  rw [ofDigit_digit, List.take_append_of_le_length h]

/-- A digit read off too short a string is filled up with zeros. -/
theorem ofDigit_digit_of_length_le {bs : List Bool} (h : bs.length ≤ w) :
    ofDigit (digit w bs) = bs ++ List.replicate (w - bs.length) false := by
  rw [ofDigit_digit, List.take_append, List.take_of_length_le h, List.take_replicate]
  congr 2
  omega

@[simp] theorem digit_ofDigit_append (d : BitVec w) (bs : List Bool) :
    digit w (ofDigit d ++ bs) = d := by
  apply BitVec.eq_of_getMsbD_eq
  intro i hi
  rw [getMsbD_digit hi, List.getD_eq_getElem?_getD, List.getElem?_append_left (by simpa using hi),
    getElem?_ofDigit hi, Option.getD_some]

@[simp] theorem digit_ofDigit (d : BitVec w) : digit w (ofDigit d) = d := by
  simpa using digit_ofDigit_append d []

theorem ofDigit_injective {d e : BitVec w} (h : ofDigit d = ofDigit e) : d = e := by
  rw [← digit_ofDigit d, h, digit_ofDigit]

theorem ofDigit_append {m n : Nat} (x : BitVec m) (y : BitVec n) :
    ofDigit (x ++ y) = ofDigit x ++ ofDigit y := by
  apply List.ext_getElem?
  intro i
  by_cases hm : i < m
  · rw [getElem?_ofDigit (by omega), List.getElem?_append_left (by simpa using hm),
      getElem?_ofDigit hm, BitVec.getMsbD_append]
    simp [Nat.not_le.mpr hm]
  · by_cases hn : i < m + n
    · rw [getElem?_ofDigit hn, List.getElem?_append_right (by simp; omega), length_ofDigit,
        getElem?_ofDigit (by omega), BitVec.getMsbD_append]
      simp [Nat.le_of_not_lt hm]
    · rw [List.getElem?_eq_none (by simp; omega), List.getElem?_eq_none (by simp; omega)]

theorem digit_drop_ofDigit {n : Nat} (d : BitVec n) (k : Nat) (h : k + w ≤ n) :
    digit w ((ofDigit d).drop k) = d.extractLsb' (n - k - w) w := by
  apply BitVec.eq_of_getMsbD_eq
  intro i hi
  have hki : k + i < n := by omega
  have hwi : w - 1 - i < w := by omega
  rw [getMsbD_digit hi, List.getD_eq_getElem?_getD, List.getElem?_drop, getElem?_ofDigit hki]
  simp only [Option.getD_some, BitVec.getMsbD, BitVec.getLsbD_extractLsb', hki, hwi, hi,
    decide_true, Bool.true_and]
  congr 1
  omega

/-! ## Complete groups -/

@[simp] theorem length_groups (bs : List Bool) : (groups w bs).length = bs.length / w := by
  simp [groups]

theorem length_rest (bs : List Bool) : (rest w bs).length = bs.length % w := by
  have := Nat.div_add_mod bs.length w
  rw [rest, List.length_drop]
  omega

theorem groups_of_lt {bs : List Bool} (h : bs.length < w) : groups w bs = [] := by
  simp [groups, Nat.div_eq_of_lt h]

theorem rest_of_lt {bs : List Bool} (h : bs.length < w) : rest w bs = bs := by
  simp [rest, Nat.div_eq_of_lt h]

theorem groups_ofDigit {n : Nat} (d : BitVec n) : groups w (ofDigit d) =
    (List.range (n / w)).map fun i => d.extractLsb' (n - w * i - w) w := by
  rw [groups, length_ofDigit]
  apply List.map_congr_left
  intro i hi
  have hmul : w * (i + 1) ≤ w * (n / w) := Nat.mul_le_mul_left w (List.mem_range.mp hi)
  have hle : w * (n / w) ≤ n := Nat.mul_div_le n w
  exact digit_drop_ofDigit d (w * i) (by rw [Nat.mul_succ] at hmul; omega)

theorem groups_of_le (hw : 0 < w) {bs : List Bool} (h : w ≤ bs.length) :
    groups w bs = digit w bs :: groups w (bs.drop w) := by
  have hdiv : bs.length / w = (bs.length - w) / w + 1 := by
    rw [Nat.div_eq_sub_div hw h]
  simp only [groups, List.length_drop, hdiv, List.range_succ_eq_map, List.map_cons, List.map_map,
    Nat.mul_zero, List.drop_zero]
  congr 1
  apply List.map_congr_left
  intro i _
  simp [List.drop_drop, Nat.mul_add, Nat.add_comm]

theorem rest_of_le (hw : 0 < w) {bs : List Bool} (h : w ≤ bs.length) :
    rest w bs = rest w (bs.drop w) := by
  have hdiv : bs.length / w = (bs.length - w) / w + 1 := by
    rw [Nat.div_eq_sub_div hw h]
  simp [rest, hdiv, List.drop_drop, Nat.mul_add, Nat.add_comm]

/-- The complete groups and the bits after them are the whole string. -/
theorem ofDigits_groups_append_rest (hw : 0 < w) (bs : List Bool) :
    ofDigits (groups w bs) ++ rest w bs = bs := by
  induction hn : bs.length using Nat.strongRecOn generalizing bs with
  | _ n ih =>
    by_cases h : bs.length < w
    · simp [groups_of_lt h, rest_of_lt h]
    · have hle : w ≤ bs.length := by omega
      rw [groups_of_le hw hle, rest_of_le hw hle, ofDigits_cons, List.append_assoc,
        ih _ (by simp; omega) (bs.drop w) rfl, ofDigit_digit_of_le hle, List.take_append_drop]

/-- **Reading goes on where it stopped**: the groups of `xs ++ ys` are those of `xs`, then those
of the bits left over followed by `ys`. -/
theorem groups_append (hw : 0 < w) (xs ys : List Bool) :
    groups w (xs ++ ys) = groups w xs ++ groups w (rest w xs ++ ys) := by
  induction hn : xs.length using Nat.strongRecOn generalizing xs with
  | _ n ih =>
    by_cases h : xs.length < w
    · simp [groups_of_lt h, rest_of_lt h]
    · have hle : w ≤ xs.length := by omega
      have hle' : w ≤ (xs ++ ys).length := by simp; omega
      have hdig : digit w (xs ++ ys) = digit w xs := by
        apply BitVec.eq_of_getMsbD_eq
        intro i hi
        rw [getMsbD_digit hi, getMsbD_digit hi, List.getD_eq_getElem?_getD,
          List.getElem?_append_left (by omega), List.getD_eq_getElem?_getD]
      rw [groups_of_le hw hle', groups_of_le hw hle, rest_of_le hw hle, hdig,
        List.drop_append_of_le_length hle, ih _ (by simp; omega) (xs.drop w) rfl,
        List.cons_append]

theorem rest_append (hw : 0 < w) (xs ys : List Bool) :
    rest w (xs ++ ys) = rest w (rest w xs ++ ys) := by
  induction hn : xs.length using Nat.strongRecOn generalizing xs with
  | _ n ih =>
    by_cases h : xs.length < w
    · rw [rest_of_lt h]
    · have hle : w ≤ xs.length := by omega
      have hle' : w ≤ (xs ++ ys).length := by simp; omega
      rw [rest_of_le hw hle', rest_of_le hw hle, List.drop_append_of_le_length hle,
        ih _ (by simp; omega) (xs.drop w) rfl]

/-- Where nothing is left over, the groups of the next part start afresh. -/
theorem groups_append_of_rest_eq_nil (hw : 0 < w) {xs : List Bool} (h : rest w xs = [])
    (ys : List Bool) : groups w (xs ++ ys) = groups w xs ++ groups w ys := by
  rw [groups_append hw, h, List.nil_append]

/-- Digits followed by further bits: the digits, then the groups of those bits. -/
theorem groups_ofDigits_append (hw : 0 < w) (ds : List (BitVec w)) (bs : List Bool) :
    groups w (ofDigits ds ++ bs) = ds ++ groups w bs := by
  induction ds with
  | nil => simp
  | cons d ds ih =>
    rw [ofDigits_cons, List.append_assoc, groups_of_le hw (by simp), digit_ofDigit_append,
      List.drop_left' (by simp), ih, List.cons_append]

theorem rest_ofDigits_append (hw : 0 < w) (ds : List (BitVec w)) (bs : List Bool) :
    rest w (ofDigits ds ++ bs) = rest w bs := by
  induction ds with
  | nil => simp
  | cons d ds ih =>
    rw [ofDigits_cons, List.append_assoc, rest_of_le hw (by simp), List.drop_left' (by simp), ih]

theorem groups_ofDigits (hw : 0 < w) (ds : List (BitVec w)) : groups w (ofDigits ds) = ds := by
  have hnil : groups w [] = [] := groups_of_lt hw
  simpa [hnil] using groups_ofDigits_append hw ds []

theorem ofDigits_injective (hw : 0 < w) {ds es : List (BitVec w)}
    (h : ofDigits ds = ofDigits es) : ds = es := by
  rw [← groups_ofDigits hw ds, h, groups_ofDigits hw es]

/-- What the complete groups are, said of the bits. -/
theorem groups_eq_iff (hw : 0 < w) {bs : List Bool} {ds : List (BitVec w)}
    (hlen : bs.length / w = ds.length) :
    groups w bs = ds ↔ bs.take (w * ds.length) = ofDigits ds := by
  have hbits : ofDigits (groups w bs) = bs.take (w * ds.length) := by
    have hsplit := ofDigits_groups_append_rest hw bs
    rw [rest, hlen] at hsplit
    exact List.append_cancel_right (hsplit.trans (List.take_append_drop ..).symm)
  rw [← hbits]
  exact ⟨congrArg ofDigits, ofDigits_injective hw⟩

/-! ## Single groups -/

theorem getElem?_groups (hw : 0 < w) (bs : List Bool) (i : Nat) :
    (groups w bs)[i]? =
      if w * i + w ≤ bs.length then some (digit w (bs.drop (w * i))) else none := by
  have hiff : i < bs.length / w ↔ w * i + w ≤ bs.length := by
    rw [← Nat.succ_le_iff, Nat.le_div_iff_mul_le hw, Nat.succ_mul, Nat.mul_comm]
  rw [groups, List.getElem?_map]
  split
  · next h => rw [List.getElem?_range (hiff.mpr h), Option.map_some]
  · next h =>
    rw [List.getElem?_eq_none (by rw [List.length_range, ← Nat.not_lt, hiff]; exact h),
      Option.map_none]

/-- A group is not changed by what comes after it. -/
theorem getElem?_groups_left (hw : 0 < w) {xs : List Bool} {i : Nat} (h : w * i + w ≤ xs.length)
    (ys ys' : List Bool) : (groups w (xs ++ ys))[i]? = (groups w (xs ++ ys'))[i]? := by
  have hlt : i < (groups w xs).length := by
    rw [length_groups, ← Nat.succ_le_iff, Nat.le_div_iff_mul_le hw, Nat.succ_mul, Nat.mul_comm]
    exact h
  rw [groups_append hw xs ys, groups_append hw xs ys', List.getElem?_append_left hlt,
    List.getElem?_append_left hlt]

/-- Nor by what comes before it, as long as that grows by whole groups. -/
theorem getElem?_groups_right (hw : 0 < w) {xs xs' : List Bool} {i j : Nat}
    (hlen : xs'.length = xs.length + w * j) (h : xs.length ≤ w * i) (ys : List Bool) :
    (groups w (xs' ++ ys))[i + j]? = (groups w (xs ++ ys))[i]? := by
  have hdrop : (xs' ++ ys).drop (w * (i + j)) = (xs ++ ys).drop (w * i) := by
    rw [List.drop_append, List.drop_append, Nat.mul_add,
      List.drop_of_length_le (by omega : xs'.length ≤ w * i + w * j),
      List.drop_of_length_le h, hlen]
    congr 2
    omega
  rw [getElem?_groups hw, getElem?_groups hw, hdrop, List.length_append, List.length_append, hlen,
    Nat.mul_add]
  congr 1
  rw [eq_iff_iff]
  omega

/-! ## Zeros -/

theorem ofDigits_eq_zeros_iff (hw : 0 < w) (ds : List (BitVec w)) :
    ofDigits ds = List.replicate (w * ds.length) false ↔ ∀ d ∈ ds, d = 0 := by
  have hzeros : ∀ n, ofDigits (List.replicate n (0 : BitVec w)) =
      List.replicate (w * n) false := by
    intro n
    have hzero : ofDigit (0 : BitVec w) = List.replicate w false := by
      apply List.ext_getElem
      · simp
      · intro i h h'
        simp [ofDigit]
    induction n with
    | zero => rfl
    | succ n ih =>
      rw [List.replicate_succ, ofDigits_cons, ih, hzero, List.replicate_append_replicate,
        Nat.mul_succ, Nat.add_comm]
  constructor
  · intro h
    rw [← hzeros] at h
    rw [ofDigits_injective hw h]
    intro d hd
    exact List.eq_of_mem_replicate hd
  · intro h
    rw [← hzeros, ← List.eq_replicate_of_mem h]

/-- A string that does not change when zeros are put before it and as many bits at its end are cut
off consists of zeros. -/
theorem take_zeros_append_iff {n : Nat} (hn : 0 < n) {bs : List Bool} :
    (List.replicate n false ++ bs).take bs.length = bs ↔ bs = List.replicate bs.length false := by
  constructor
  · intro h
    have hall : ∀ i (hi : i < bs.length), bs[i] = false := by
      intro i
      induction i using Nat.strongRecOn with
      | _ i ih =>
        intro hi
        have hbit := congrArg (·[i]?) h
        simp only [List.getElem?_take, hi, if_true, List.getElem?_append, List.length_replicate,
          List.getElem?_eq_getElem hi] at hbit
        split at hbit
        · next hlt =>
          rw [List.getElem?_replicate, if_pos hlt, Option.some.injEq] at hbit
          exact hbit.symm
        · next hge =>
          have hlt : i - n < bs.length := by omega
          rw [List.getElem?_eq_getElem hlt, Option.some.injEq, ih (i - n) (by omega) hlt] at hbit
          exact hbit.symm
    apply List.ext_getElem
    · simp
    · intro i hi hi'
      rw [hall i hi, List.getElem_replicate]
  · intro h
    rw [h, List.replicate_append_replicate, List.take_replicate, List.length_replicate]
    congr 1
    omega

/-! ## Padded groups -/

@[simp] theorem padded_nil : padded w [] = [] := by
  simp [padded, rest, groups]

theorem padded_of_lt {bs : List Bool} (h : bs.length < w) (hne : bs ≠ []) :
    padded w bs = [digit w bs] := by
  rw [padded, rest_of_lt h, if_neg hne, groups_of_lt h, List.nil_append]

theorem padded_of_le (hw : 0 < w) {bs : List Bool} (h : w ≤ bs.length) :
    padded w bs = digit w bs :: padded w (bs.drop w) := by
  simp only [padded, rest_of_le hw h, groups_of_le hw h]
  split <;> rfl

theorem ofDigits_padded (hw : 0 < w) (bs : List Bool) :
    ∃ k, k < w ∧ ofDigits (padded w bs) = bs ++ List.replicate k false := by
  have hsplit := ofDigits_groups_append_rest hw bs
  have hlt : (rest w bs).length < w := by
    rw [length_rest]
    exact Nat.mod_lt _ hw
  by_cases h : rest w bs = []
  · refine ⟨0, hw, ?_⟩
    rw [h, List.append_nil] at hsplit
    simp [padded, h, hsplit]
  · have hpos : 0 < (rest w bs).length := List.length_pos_iff.mpr h
    refine ⟨w - (rest w bs).length, by omega, ?_⟩
    rw [padded, if_neg h, ofDigits_append, ofDigits_cons, ofDigits_nil, List.append_nil,
      ofDigit_digit_of_length_le (Nat.le_of_lt hlt), ← List.append_assoc, hsplit]

theorem length_padded (hw : 0 < w) (bs : List Bool) :
    (padded w bs).length = (bs.length + (w - 1)) / w := by
  obtain ⟨k, hk, h⟩ := ofDigits_padded hw bs
  have hlen := congrArg List.length h
  simp only [length_ofDigits, List.length_append, List.length_replicate] at hlen
  symm
  apply Nat.div_eq_of_lt_le
  · rw [Nat.mul_comm]
    omega
  · rw [Nat.add_mul, Nat.one_mul, Nat.mul_comm]
    omega

theorem padded_append (hw : 0 < w) {xs : List Bool} (h : rest w xs = []) (ys : List Bool) :
    padded w (xs ++ ys) = padded w xs ++ padded w ys := by
  have hgroups := groups_append hw xs ys
  have hrest := rest_append hw xs ys
  rw [h, List.nil_append] at hgroups hrest
  simp only [padded, h, hgroups, hrest, if_true]
  split <;> simp

/-- **Padding to a narrower width loses nothing.** -/
theorem groups_ofDigits_padded (hw : 0 < w) (hwv : w ≤ v) (ds : List (BitVec v)) :
    groups v (ofDigits (padded w (ofDigits ds))) = ds := by
  obtain ⟨k, hk, h⟩ := ofDigits_padded hw (ofDigits ds)
  rw [h, groups_ofDigits_append (by omega), groups_of_lt (by simp; omega), List.append_nil]

/-- The bits that regrouping a padded text leaves over are zeros, fewer than a digit of it. -/
theorem rest_ofDigits_padded (hw : 0 < w) (hwv : w ≤ v) (ds : List (BitVec v)) :
    ∃ k, k < w ∧ rest v (ofDigits (padded w (ofDigits ds))) = List.replicate k false := by
  obtain ⟨k, hk, h⟩ := ofDigits_padded hw (ofDigits ds)
  refine ⟨k, hk, ?_⟩
  rw [h, rest_ofDigits_append (by omega), rest_of_lt (by simp; omega)]

/-- Only the padded text spells the given bits followed by fewer than `w` zeros. -/
theorem padded_unique (hw : 0 < w) {ds : List (BitVec w)} {bs : List Bool} {k : Nat}
    (hk : k < w) (h : ofDigits ds = bs ++ List.replicate k false) : padded w bs = ds := by
  obtain ⟨j, hj, hp⟩ := ofDigits_padded hw bs
  have hlen := congrArg List.length h
  have hplen := congrArg List.length hp
  simp only [length_ofDigits, List.length_append, List.length_replicate] at hlen hplen
  have hjk : j = k := by
    rcases Nat.lt_trichotomy ds.length (padded w bs).length with hlt | heq | hgt
    · have := Nat.mul_le_mul_left w hlt
      rw [Nat.mul_succ] at this
      omega
    · rw [heq] at hlen
      omega
    · have := Nat.mul_le_mul_left w hgt
      rw [Nat.mul_succ] at this
      omega
  subst hjk
  exact ofDigits_injective hw (hp.trans h.symm)

/-- A text whose leftover bits are fewer than `w` zeros is the padded text of its complete
groups. -/
theorem padded_ofDigits_groups (hw : 0 < w) (hv : 0 < v) {ss : List (BitVec w)} {k : Nat}
    (hk : k < w) (h : rest v (ofDigits ss) = List.replicate k false) :
    padded w (ofDigits (groups v (ofDigits ss))) = ss := by
  apply padded_unique hw hk
  rw [← h, ofDigits_groups_append_rest hv]

end BitString
