import Mathlib.Data.Fintype.Card
import Libb64.Lib.Relaxed

/-!
# Threads that call through pointers resolved on first use

A family of function pointers, shared by any number of threads, each starts out with a resolver. A
call loads the pointer. If it finds the resolver, that one picks a function, stores it to the
pointer and calls it; otherwise the function found is called. The loads and stores are relaxed, so a
thread may find the resolver long after another one has stored.

Whatever the interleaving and whatever the loads find, each thread computes what it would compute
with every pointer leading straight to its function (`eval_eq`); it never waits for another
thread, it is done after two steps for each call and one for each pointer (`steps_le`), and it
stores to each pointer at most once (`stores_nodup`).
-/

/-- Code that calls functions through the pointers `β` with arguments `κ`, goes on with what they
return, and ends with a result. -/
inductive CallTree (β κ ο α : Type*) where
  | done (a : α)
  | call (b : β) (x : κ) (next : ο → CallTree β κ ο α)

namespace CallTree

variable {β κ ο α γ : Type*}

/-- The result if each pointer leads to a fixed function. -/
def eval (f : β → κ → ο) : CallTree β κ ο α → α
  | done a => a
  | call b x next => (next (f b x)).eval f

/-- The number of calls made on the way. -/
def calls (f : β → κ → ο) : CallTree β κ ο α → Nat
  | done _ => 0
  | call b x next => (next (f b x)).calls f + 1

/-- One code after the other. -/
def bind (t : CallTree β κ ο α) (k : α → CallTree β κ ο γ) : CallTree β κ ο γ :=
  match t with
  | done a => k a
  | call b x next => call b x fun r => (next r).bind k

theorem eval_bind (f : β → κ → ο) (t : CallTree β κ ο α) (k : α → CallTree β κ ο γ) :
    (t.bind k).eval f = (k (t.eval f)).eval f := by
  induction t with
  | done a => rfl
  | call b x next ih => exact ih (f b x)

end CallTree

/-- The function that the resolver of each pointer picks, and what the functions return. -/
structure LazyPointers (β φ κ ο : Type*) where
  resolve : β → φ
  exec : β → φ → κ → ο

namespace LazyPointers

variable {ι β φ κ ο α : Type*}

/-- Where a thread is: in its own code, in the resolver with the store ahead, or in a function it
called. -/
inductive Thread (β φ κ ο α : Type*) where
  | own (code : CallTree β κ ο α)
  | resolving (b : β) (x : κ) (next : ο → CallTree β κ ο α)
  | running (f : φ) (b : β) (x : κ) (next : ο → CallTree β κ ο α)

/-- The pointers, with `none` for the resolver, and the threads. -/
structure Config (ι β φ κ ο α : Type*) where
  ptr : β → RelaxedLoc ι (Option φ)
  thread : ι → Thread β φ κ ο α

def Config.init (code : ι → CallTree β κ ο α) : Config ι β φ κ ο α where
  ptr _ := .init ι none
  thread i := .own (code i)

/-- The function that a pointer leads to in the end. -/
def final (P : LazyPointers β φ κ ο) (b : β) (x : κ) : ο := P.exec b (P.resolve b) x

/-- Where a thread goes with what it loaded. -/
def Thread.enter (b : β) (x : κ) (next : ο → CallTree β κ ο α) : Option φ → Thread β φ κ ο α
  | none => .resolving b x next
  | some f => .running f b x next

section Updates

variable {c : Config ι β φ κ ο α} {i j : ι} {b b' : β} {l : RelaxedLoc ι (Option φ)}
  {t : Thread β φ κ ο α}

def Config.setThread [DecidableEq ι] (c : Config ι β φ κ ο α) (i : ι) (t : Thread β φ κ ο α) :
    Config ι β φ κ ο α :=
  { c with thread := Function.update c.thread i t }

def Config.setPtr [DecidableEq β] (c : Config ι β φ κ ο α) (b : β)
    (l : RelaxedLoc ι (Option φ)) : Config ι β φ κ ο α :=
  { c with ptr := Function.update c.ptr b l }

@[simp] theorem setThread_ptr [DecidableEq ι] : (c.setThread i t).ptr = c.ptr := rfl

@[simp] theorem setThread_self [DecidableEq ι] : (c.setThread i t).thread i = t :=
  Function.update_self ..

theorem setThread_of_ne [DecidableEq ι] (h : j ≠ i) :
    (c.setThread i t).thread j = c.thread j :=
  Function.update_of_ne h ..

@[simp] theorem setPtr_thread [DecidableEq β] : (c.setPtr b l).thread = c.thread := rfl

@[simp] theorem setPtr_self [DecidableEq β] : (c.setPtr b l).ptr b = l :=
  Function.update_self ..

theorem setPtr_of_ne [DecidableEq β] (h : b' ≠ b) : (c.setPtr b l).ptr b' = c.ptr b' :=
  Function.update_of_ne h ..

end Updates

variable [DecidableEq ι] [DecidableEq β]

/-- Thread `i` takes a step; `k` is where a load finds its value or a store takes its place. -/
def step (P : LazyPointers β φ κ ο) (c : Config ι β φ κ ο α) (i : ι) (k : Nat) :
    Option (Config ι β φ κ ο α) :=
  match c.thread i with
  | .own (.done _) => none
  | .own (.call b x next) =>
    ((c.ptr b).load i k).map fun (f, l) => (c.setPtr b l).setThread i (.enter b x next f)
  | .resolving b x next =>
    ((c.ptr b).store i k (some (P.resolve b))).map fun l =>
      (c.setPtr b l).setThread i (.running (P.resolve b) b x next)
  | .running f b x next => some (c.setThread i (.own (next (P.exec b f x))))

/-- The configuration after a list of steps, if all of them happen. -/
def run (P : LazyPointers β φ κ ο) (c : Config ι β φ κ ο α) :
    List (ι × Nat) → Option (Config ι β φ κ ο α)
  | [] => some c
  | (i, k) :: steps => (P.step c i k).bind fun c' => P.run c' steps

/-- The pointer that a thread stores to with its next step. -/
def Thread.storing : Thread β φ κ ο α → Option β
  | .resolving b _ _ => some b
  | _ => none

/-- The stores of a list of steps, in the order in which the threads make them: who stores to which
pointer. -/
def stores (P : LazyPointers β φ κ ο) (c : Config ι β φ κ ο α) : List (ι × Nat) → List (ι × β)
  | [] => []
  | (i, k) :: steps =>
    match P.step c i k with
    | some c' => (c.thread i).storing.toList.map (i, ·) ++ P.stores c' steps
    | none => []

/-! ## Steps -/

/-- What a thread has left to do. -/
def Thread.code : Thread β φ κ ο α → CallTree β κ ο α
  | .own code => code
  | .resolving b x next => .call b x next
  | .running _ b x next => .call b x next

/-- The steps a thread has left to take, less those for the resolvers. -/
def Thread.cost (P : LazyPointers β φ κ ο) : Thread β φ κ ο α → Nat
  | .own code => 2 * code.calls P.final
  | .resolving b x next => 2 * (next (P.final b x)).calls P.final + 1
  | .running _ b x next => 2 * (next (P.final b x)).calls P.final + 1

/-- The pointers that a thread may still find the resolver in. -/
def Config.unseen [Fintype β] (c : Config ι β φ κ ο α) (i : ι) : Finset β :=
  {b | (c.ptr b).seen i = 0}

/-- A thread in a resolver has not seen a store to the pointer yet, and one in a function is in the
right one. -/
def Thread.Sound (P : LazyPointers β φ κ ο) (c : Config ι β φ κ ο α) (i : ι) :
    Thread β φ κ ο α → Prop
  | .own _ => True
  | .resolving b _ _ => (c.ptr b).seen i = 0
  | .running f b _ _ => f = P.resolve b

structure Sound (P : LazyPointers β φ κ ο) (c : Config ι β φ κ ο α) : Prop where
  settles : ∀ b, (c.ptr b).Settles none (some (P.resolve b))
  thread : ∀ i, (c.thread i).Sound P c i

omit [DecidableEq ι] [DecidableEq β] in
theorem Sound.init (P : LazyPointers β φ κ ο) (code : ι → CallTree β κ ο α) :
    Sound P (.init code) where
  settles _ := .init ..
  thread _ := trivial

section Steps

variable {P : LazyPointers β φ κ ο} {c c' : Config ι β φ κ ο α} {i j : ι} {k : Nat} {b b' : β}
  {l : RelaxedLoc ι (Option φ)} {t : Thread β φ κ ο α}

/-- **What a step can do.** -/
theorem step_cases (h : P.step c i k = some c') :
    (∃ b x next f l, c.thread i = .own (.call b x next) ∧ (c.ptr b).load i k = some (f, l) ∧
      c' = (c.setPtr b l).setThread i (.enter b x next f)) ∨
    (∃ b x next l, c.thread i = .resolving b x next ∧
      (c.ptr b).store i k (some (P.resolve b)) = some l ∧
      c' = (c.setPtr b l).setThread i (.running (P.resolve b) b x next)) ∨
    ∃ f b x next, c.thread i = .running f b x next ∧
      c' = c.setThread i (.own (next (P.exec b f x))) := by
  unfold step at h
  split at h
  · cases h
  · next b x next heq =>
    obtain ⟨⟨f, l⟩, hload, rfl⟩ := Option.map_eq_some_iff.mp h
    exact .inl ⟨b, x, next, f, l, heq, hload, rfl⟩
  · next b x next heq =>
    obtain ⟨l, hstore, rfl⟩ := Option.map_eq_some_iff.mp h
    exact .inr (.inl ⟨b, x, next, l, heq, hstore, rfl⟩)
  · next f b x next heq =>
    cases h
    exact .inr (.inr ⟨f, b, x, next, heq, rfl⟩)

/-- What a step of thread `i` does to the pointers: they stay settled, the other threads know what
they knew, thread `i` knows no less, and a pointer is stored to only by a thread that has seen no
store to it. -/
structure Accessed (P : LazyPointers β φ κ ο) (c c' : Config ι β φ κ ο α) (i : ι) : Prop where
  settles : ∀ b, (c'.ptr b).Settles none (some (P.resolve b))
  seen_iff : ∀ j ≠ i, ∀ b, (c'.ptr b).seen j = 0 ↔ (c.ptr b).seen j = 0
  seen_mono : ∀ b, (c'.ptr b).seen i = 0 → (c.ptr b).seen i = 0
  stored : ∀ b, (c.thread i).storing = some b →
    (c'.ptr b).history.length = (c.ptr b).history.length + 1 ∧ (c.ptr b).seen i = 0 ∧
      (c'.ptr b).seen i ≠ 0
  kept : ∀ b, (c.thread i).storing ≠ some b → (c'.ptr b).history = (c.ptr b).history

/-- What a step of thread `i` brings: the other threads are where they were, and thread `i` computes
what it did with less left to do. -/
structure Stepped [Fintype β] (P : LazyPointers β φ κ ο) (c c' : Config ι β φ κ ο α) (i : ι) :
    Prop extends Accessed P c c' i where
  others : ∀ j ≠ i, c'.thread j = c.thread j
  sound : (c'.thread i).Sound P c' i
  eval_eq : (c'.thread i).code.eval P.final = (c.thread i).code.eval P.final
  cost_lt : (c'.thread i).cost P + (c'.unseen i).card < (c.thread i).cost P + (c.unseen i).card

theorem Accessed.setPtr (hc : Sound P c) (hl : l.Settles none (some (P.resolve b)))
    (hother : ∀ j ≠ i, (l.seen j = 0 ↔ (c.ptr b).seen j = 0))
    (hmono : l.seen i = 0 → (c.ptr b).seen i = 0)
    (hstored : ∀ b', (c.thread i).storing = some b' → b' = b ∧
      l.history.length = (c.ptr b).history.length + 1 ∧ (c.ptr b).seen i = 0 ∧ l.seen i ≠ 0)
    (hkept : (c.thread i).storing ≠ some b → l.history = (c.ptr b).history)
    (t : Thread β φ κ ο α) : Accessed P c ((c.setPtr b l).setThread i t) i := by
  refine ⟨fun b' => ?_, fun j hj b' => ?_, fun b' => ?_, fun b' hb' => ?_, fun b' hb' => ?_⟩ <;>
    rw [setThread_ptr]
  · rcases eq_or_ne b' b with rfl | hb
    · rwa [setPtr_self]
    · rw [setPtr_of_ne hb]
      exact hc.settles b'
  · rcases eq_or_ne b' b with rfl | hb
    · rw [setPtr_self]
      exact hother j hj
    · rw [setPtr_of_ne hb]
  · rcases eq_or_ne b' b with rfl | hb
    · rwa [setPtr_self]
    · rw [setPtr_of_ne hb]
      exact id
  · obtain ⟨rfl, hnew⟩ := hstored b' hb'
    rwa [setPtr_self]
  · rcases eq_or_ne b' b with rfl | hb
    · rw [setPtr_self]
      exact hkept hb'
    · rw [setPtr_of_ne hb]

omit [DecidableEq ι] [DecidableEq β] in
theorem Accessed.seen_of_seen (h : Accessed P c c' i) (hj : (c'.ptr b).seen j = 0) :
    (c.ptr b).seen j = 0 := by
  rcases eq_or_ne j i with rfl | hne
  · exact h.seen_mono b hj
  · exact (h.seen_iff j hne b).mp hj

omit [DecidableEq ι] [DecidableEq β] in
theorem Accessed.unseen_subset [Fintype β] (h : Accessed P c c' i) :
    c'.unseen i ⊆ c.unseen i := by
  intro b hb
  simp only [Config.unseen, Finset.mem_filter] at hb ⊢
  exact ⟨hb.1, h.seen_mono b hb.2⟩

omit [DecidableEq ι] [DecidableEq β] in
theorem Accessed.card_unseen_lt [Fintype β] (h : Accessed P c c' i)
    (hold : (c.ptr b).seen i = 0) (hnew : (c'.ptr b).seen i ≠ 0) :
    (c'.unseen i).card < (c.unseen i).card := by
  apply Finset.card_lt_card
  rw [Finset.ssubset_iff_of_subset h.unseen_subset]
  exact ⟨b, by simp [Config.unseen, hold], by simp [Config.unseen, hnew]⟩

/-- **One step.** -/
theorem Sound.stepped [Fintype β] (hc : Sound P c) (h : P.step c i k = some c') :
    Stepped P c c' i := by
  have hi := hc.thread i
  rcases step_cases h with ⟨b, x, next, f, l, heq, hload, rfl⟩ |
    ⟨b, x, next, l, heq, hstore, rfl⟩ | ⟨f, b, x, next, heq, rfl⟩
  · -- a load: the resolver from position 0, else the function
    obtain ⟨hl, hhist, hle, hseen, hf⟩ := (hc.settles b).load hload
    have hself : l.seen i = k := by rw [hseen, Function.update_self]
    have hacc : Accessed P c ((c.setPtr b l).setThread i (.enter b x next f)) i := by
      refine .setPtr hc hl (fun j hj => ?_) (by omega) (fun b' hb' => ?_) (fun _ => hhist) _
      · rw [hseen, Function.update_of_ne hj]
      · rw [heq] at hb'
        cases hb'
    have hcard := Finset.card_le_card hacc.unseen_subset
    simp only [Config.unseen, setThread_ptr] at hcard
    refine ⟨hacc, fun j hj => setThread_of_ne hj, ?_, ?_, ?_⟩
    all_goals
      simp only [setThread_self, heq]
      split at hf <;> subst hf
    · rwa [Thread.enter, Thread.Sound, setThread_ptr, setPtr_self, hself]
    · rfl
    · rfl
    · rfl
    all_goals
      simp only [Thread.enter, Thread.cost, CallTree.calls, Config.unseen, setThread_ptr]
      omega
  · -- the store of a resolver: one pointer less to find it in
    obtain ⟨hl, hlen, hpos, hother⟩ := (hc.settles b).store hstore
    have hne : l.seen i ≠ 0 := Nat.ne_of_gt hpos
    rw [heq] at hi
    have hacc : Accessed P c ((c.setPtr b l).setThread i (.running (P.resolve b) b x next)) i := by
      refine .setPtr hc hl hother (fun h0 => absurd h0 hne) (fun b' hb' => ?_) (fun hb => ?_) _
      · rw [heq] at hb'
        exact ⟨(Option.some.inj hb').symm, hlen, hi, hne⟩
      · rw [heq] at hb
        exact absurd rfl hb
    have hcard := hacc.card_unseen_lt (b := b) hi (by rwa [setThread_ptr, setPtr_self])
    refine ⟨hacc, fun j hj => setThread_of_ne hj, ?_, ?_, ?_⟩
    · rw [setThread_self]
      rfl
    · rw [setThread_self, heq]
      rfl
    · rw [setThread_self, heq]
      simp only [Thread.cost]
      omega
  · -- the function returns
    rw [heq] at hi
    obtain rfl : f = P.resolve b := hi
    refine ⟨⟨hc.settles, fun _ _ _ => Iff.rfl, fun _ => id, fun b' hb' => ?_, fun _ _ => rfl⟩,
      fun j hj => setThread_of_ne hj, ?_, ?_, ?_⟩
    · rw [heq] at hb'
      cases hb'
    · rw [setThread_self]
      trivial
    · rw [setThread_self, heq]
      rfl
    · rw [setThread_self, heq]
      simp only [Thread.cost, Config.unseen, setThread_ptr]
      exact Nat.add_lt_add_right (Nat.lt_succ_self _) _

theorem Sound.step [Fintype β] (hc : Sound P c) (h : P.step c i k = some c') : Sound P c' := by
  have hs := hc.stepped h
  refine ⟨hs.settles, fun j => ?_⟩
  rcases eq_or_ne j i with rfl | hj
  · exact hs.sound
  · have hold := hc.thread j
    rw [hs.others j hj]
    cases hthread : c.thread j <;> rw [hthread] at hold
    case own => trivial
    case resolving b x next => exact (hs.seen_iff j hj b).mpr hold
    case running => exact hold

/-- **No thread waits**: one that is not done can take a step. -/
theorem Sound.progress (hc : Sound P c) (i : ι) :
    (∃ a, c.thread i = .own (.done a)) ∨ ∃ k, (P.step c i k).isSome := by
  cases hthread : c.thread i with
  | own code =>
    cases code with
    | done a => exact .inl ⟨a, rfl⟩
    | call b x next =>
      obtain ⟨⟨k, hk⟩, -⟩ := (hc.settles b).progress i
      refine .inr ⟨k, ?_⟩
      rw [LazyPointers.step, hthread]
      simpa using hk
  | resolving b x next =>
    obtain ⟨-, hstore⟩ := (hc.settles b).progress i
    obtain ⟨k, hk⟩ := hstore (some (P.resolve b))
    refine .inr ⟨k, ?_⟩
    rw [LazyPointers.step, hthread]
    simpa using hk
  | running f b x next =>
    refine .inr ⟨0, ?_⟩
    rw [LazyPointers.step, hthread]
    rfl

end Steps

/-! ## Runs -/

section Runs

variable [Fintype β] {P : LazyPointers β φ κ ο} {c c' : Config ι β φ κ ο α} {i : ι}
  {steps : List (ι × Nat)} {code : ι → CallTree β κ ο α}

/-- **A run**: each thread still computes the same, and each of its steps took something off what
it had left. -/
theorem Sound.run (hc : Sound P c) (h : P.run c steps = some c') :
    Sound P c' ∧ ∀ j, (c'.thread j).code.eval P.final = (c.thread j).code.eval P.final ∧
      steps.countP (·.1 = j) + ((c'.thread j).cost P + (c'.unseen j).card) ≤
        (c.thread j).cost P + (c.unseen j).card := by
  induction steps generalizing c with
  | nil =>
    cases h
    exact ⟨hc, fun j => ⟨rfl, by simp⟩⟩
  | cons s steps ih =>
    obtain ⟨i, k⟩ := s
    obtain ⟨c₁, hstep, hrun⟩ := Option.bind_eq_some_iff.mp h
    have hs := hc.stepped hstep
    obtain ⟨hc', hall⟩ := ih (hc.step hstep) hrun
    refine ⟨hc', fun j => ?_⟩
    obtain ⟨heval, hcost⟩ := hall j
    rw [heval, List.countP_cons]
    rcases eq_or_ne j i with rfl | hj
    · have hlt := hs.cost_lt
      refine ⟨hs.eval_eq, ?_⟩
      simp only [decide_true, if_true]
      omega
    · have hunseen : c₁.unseen j = c.unseen j := by
        ext b
        simp [Config.unseen, hs.seen_iff j hj b]
      have hno : decide (i = j) = false := decide_eq_false hj.symm
      rw [hs.others j hj, hunseen] at hcost
      rw [hs.others j hj]
      refine ⟨rfl, ?_⟩
      simp only [hno, Bool.false_eq_true, if_false]
      omega

/-- **Each thread computes what it would compute alone**, whatever the other threads do. -/
theorem eval_eq (h : P.run (.init code) steps = some c) {a : α}
    (hdone : c.thread i = .own (.done a)) : a = (code i).eval P.final := by
  have heval := ((Sound.init P code).run h).2 i |>.1
  rw [hdone] at heval
  exact heval

/-- **Each thread is done in time**: it has taken at most two steps for each call it makes and one
for each pointer. -/
theorem steps_le (h : P.run (.init code) steps = some c) (i : ι) :
    steps.countP (·.1 = i) ≤ 2 * (code i).calls P.final + Fintype.card β := by
  have hcost := ((Sound.init P code).run h).2 i |>.2
  have hall : ((Config.init (φ := φ) code).unseen i).card = Fintype.card β := by
    simp [Config.unseen, Config.init, RelaxedLoc.init]
  have hcode : (Config.init (φ := φ) code).thread i = .own (code i) := rfl
  rw [hall, hcode, Thread.cost] at hcost
  omega

/-- **The stores of a run**: none is made twice, none by a thread that had seen one to that pointer
before, and they are what the histories have grown by. -/
theorem Sound.stores (hc : Sound P c) (h : P.run c steps = some c') :
    (P.stores c steps).Nodup ∧ (∀ j b, (j, b) ∈ P.stores c steps → (c.ptr b).seen j = 0) ∧
      ∀ b, (c'.ptr b).history.length =
        (c.ptr b).history.length + (P.stores c steps).countP (·.2 = b) := by
  induction steps generalizing c with
  | nil =>
    cases h
    exact ⟨List.nodup_nil, fun _ _ hmem => absurd hmem List.not_mem_nil, fun _ => rfl⟩
  | cons s steps ih =>
    obtain ⟨i, k⟩ := s
    obtain ⟨c₁, hstep, hrun⟩ := Option.bind_eq_some_iff.mp h
    have hs := hc.stepped hstep
    obtain ⟨hnodup, hseen, hlen⟩ := ih (hc.step hstep) hrun
    simp only [LazyPointers.stores, hstep]
    cases hstoring : (c.thread i).storing with
    | none =>
      refine ⟨hnodup, fun j b hmem => hs.seen_of_seen (hseen j b hmem), fun b => ?_⟩
      have hother : (c.thread i).storing ≠ some b := hstoring ▸ (Option.some_ne_none b).symm
      rw [hlen b, hs.kept b hother]
      rfl
    | some b₀ =>
      obtain ⟨hgrown, hold, hnew⟩ := hs.stored b₀ hstoring
      simp only [Option.toList_some, List.map_cons, List.map_nil, List.singleton_append]
      refine ⟨List.nodup_cons.mpr ⟨fun hmem => hnew (hseen i b₀ hmem), hnodup⟩, ?_, fun b => ?_⟩
      · intro j b hmem
        rcases List.mem_cons.mp hmem with heq | hmem
        · cases heq
          exact hold
        · exact hs.seen_of_seen (hseen j b hmem)
      · rw [hlen b, List.countP_cons]
        rcases eq_or_ne b₀ b with rfl | hb
        · rw [hgrown, if_pos (decide_eq_true rfl)]
          omega
        · have hother : (c.thread i).storing ≠ some b :=
            hstoring ▸ fun heq => hb (Option.some.inj heq)
          rw [hs.kept b hother, if_neg (by simpa using hb)]
          rfl

end Runs

end LazyPointers
