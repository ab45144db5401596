import Mathlib.Algebra.GroupWithZero.Nat
import Libb64.Lib.Ownership
import Libb64.Verify.Balloc

/-!
# Many results in one memory

A client calls the allocating helpers again and again with one allocator, also on what lies in
memory as the result of an earlier call, and frees results in any order. All blocks are stretches of
one memory, and a store is a store to that memory. The client works as one that had values in place
of pointers: each result that was not freed is found in memory as the value it stands for, and the
blocks the allocator has out are exactly those of these results (`allocSession_sound`).
-/

namespace Libb64

open Rfc4648 Ownership

variable {T : Target}

/-- Follows the calls `new`, made after `calls`, with the blocks `held` at hand: `none` if one of
them resizes a block, gives back what is not held, or is not for a result. -/
def replayBlocks (reallocFn : B64ReallocFn T) (calls : List (ReallocCall T)) (held : List Block) :
    List (ReallocCall T) → Option (List Block)
  | [] => some held
  | call :: new =>
    if call.life ≠ .long then
      none
    else
      match call.ptr with
      | none =>
        match reallocFn calls call with
        | none => replayBlocks reallocFn (calls ++ [call]) held new
        | some p => replayBlocks reallocFn (calls ++ [call]) (⟨p, call.size.toNat⟩ :: held) new
      | some p =>
        if call.size = 0 ∧ p ∈ held.map Block.ptr then
          replayBlocks reallocFn (calls ++ [call]) (held.eraseP (·.ptr = p)) new
        else
          none

/-- A new block is apart from those that were not given back. -/
def KeepsApart (reallocFn : B64ReallocFn T) : Prop :=
  ∀ calls held call p, replayBlocks reallocFn [] [] calls = some held → call.ptr = none →
    reallocFn calls call = some p → ∀ b ∈ held, Block.Apart ⟨p, call.size.toNat⟩ b

/-- What the client keeps of a successful call, and the value it stands for. -/
structure LiveResult (T : Target) where
  ptr : Nat
  size : T.SizeT
  length : T.SizeT
  value : List Byte

def LiveResult.owned (r : LiveResult T) : Owned Byte := ⟨⟨r.ptr, r.size.toNat⟩, r.value⟩

structure AllocSession (T : Target) where
  calls : List (ReallocCall T)
  memory : Nat → Byte
  live : List (LiveResult T)

/-- What a call is made on: bytes of the client's own, or a result. -/
inductive Argument (T : Target) where
  | bytes (bs : List Byte) (fits : bs.length < 2 ^ T.sizeBits)
  | result (ptr : Nat)

inductive SessionOp (T : Target) where
  | encode (simd : Base64EncodeBulkSimd) (contents : Nat → Byte) (plaintext : Argument T)
  | decode (simd : Base64DecodeBulkSimd) (contents : Nat → Byte) (code : Argument T)
  | free (ptr : Option Nat)

namespace AllocSession

/-- What is in memory behind an argument; and the value it stands for. -/
def fetch (s : AllocSession T) : Argument T → Option (List Byte × List Byte)
  | .bytes bs _ => some (bs, bs)
  | .result ptr => do
    let r ← s.live.find? (·.ptr = ptr)
    return (readMemory s.memory r.ptr r.length.toNat, r.value)

/-- The client looks at the value returned. The block is obtained with whatever it holds, and a
store through its pointer reaches the memory also outside of it. -/
def obtain (s : AllocSession T) (r : Base64AllocResult T) (value : List Byte) : AllocSession T :=
  if r.returned = 0 then
    let p := (r.out.getD none).getD 0
    let size := (r.calls.getLast?.map ReallocCall.size).getD 0
    { calls := r.calls
      memory := fun a =>
        if p ≤ a ∧ (a < p + size.toNat ∨ a - p ∈ r.buf.stores) then r.buf.read (a - p)
        else s.memory a
      live := ⟨p, size, r.outlen.getD 0, value⟩ :: s.live }
  else
    { s with calls := r.calls }

/-- One call of the client; it passes and frees only what it has. -/
def step (realloc : CRealloc T) (alloc : Option (B64CAllocator T)) (s : AllocSession T) :
    SessionOp T → Option (AllocSession T)
  | .encode simd contents plaintext => do
    let (inMemory, value) ← s.fetch plaintext
    let r := base64EncodeAlloc realloc simd alloc s.calls contents inMemory (some none) (some 0)
    return s.obtain r (Rfc4648.encode value)
  | .decode simd contents code => do
    let (inMemory, value) ← s.fetch code
    let r := base64DecodeAlloc realloc simd alloc s.calls contents inMemory (some none) (some 0)
    return s.obtain r (Rfc4648.decode value)
  | .free none => some { s with calls := base64Free s.calls none }
  | .free (some ptr) =>
    if ptr ∈ s.live.map LiveResult.ptr then
      some { s with
        calls := base64Free s.calls (some ptr)
        live := s.live.eraseP (·.ptr = ptr) }
    else
      none

def run (realloc : CRealloc T) (alloc : Option (B64CAllocator T)) (s : AllocSession T) :
    List (SessionOp T) → Option (AllocSession T)
  | [] => some s
  | op :: ops => (s.step realloc alloc op).bind fun s' => s'.run realloc alloc ops

/-- The allocator has out what is live, and the memory holds the values. -/
structure Sound (reallocFn : B64ReallocFn T) (s : AllocSession T) : Prop where
  held : replayBlocks reallocFn [] [] s.calls = some (s.live.map fun r => r.owned.block)
  intact : Intact s.memory (s.live.map LiveResult.owned)
  lengths : ∀ r ∈ s.live, r.length.toNat = r.value.length

end AllocSession

/-! ## The allocator's calls -/

section Calls

variable {reallocFn : B64ReallocFn T} {calls : List (ReallocCall T)} {held : List Block}

theorem replayBlocks_append (held : List Block) (new new' : List (ReallocCall T)) :
    replayBlocks reallocFn calls held (new ++ new') =
      (replayBlocks reallocFn calls held new).bind fun held' =>
        replayBlocks reallocFn (calls ++ new) held' new' := by
  induction new generalizing calls held with
  | nil => simp [replayBlocks]
  | cons call new ih =>
    simp only [List.cons_append, replayBlocks]
    split
    · rfl
    · split
      · split <;> rw [ih, List.append_assoc, List.singleton_append]
      · split
        · rw [ih, List.append_assoc, List.singleton_append]
        · rfl

theorem replayBlocks_giveBack (h : replayBlocks reallocFn [] [] calls = some held) {p : Nat}
    (hp : p ∈ held.map Block.ptr) :
    replayBlocks reallocFn [] [] (calls ++ [{ ptr := some p, size := 0, life := .long }]) =
      some (held.eraseP (·.ptr = p)) := by
  rw [replayBlocks_append, h, Option.bind_some]
  simp only [replayBlocks, ne_eq, not_true_eq_false, if_false, hp, and_self, if_true]

/-- What the contract of an allocating helper says about its one call. -/
theorem AllocSpec.blocks {size : Nat} {bytes : List Byte} {r : Base64AllocResult T}
    (hspec : AllocSpec reallocFn calls size bytes r)
    (h : replayBlocks reallocFn [] [] calls = some held) :
    (r.returned ≠ 0 → replayBlocks reallocFn [] [] r.calls = some held) ∧
      (r.returned = 0 → ∃ call p, r.calls = calls ++ [call] ∧ call.ptr = none ∧
        call.size.toNat = size ∧ reallocFn calls call = some p ∧ r.out = some (some p) ∧
        replayBlocks reallocFn [] [] r.calls = some (⟨p, size⟩ :: held)) := by
  have hstart := Outstanding.refl reallocFn .long calls
  rcases hspec.requests with hsame | ⟨⟨ptr, asked, life⟩, hcalls, hptr, hlife, hsize⟩
  · refine ⟨fun _ => hsame ▸ h, fun hok => ?_⟩
    obtain ⟨p, n, -, -, -, -, hheld⟩ := hspec.succeeded hok
    rw [hsame] at hheld
    cases hheld.unique hstart
  · dsimp only at hptr hlife hsize
    subst hptr hlife
    have hreplay : replayBlocks reallocFn [] [] r.calls =
        some ((reallocFn calls ⟨none, asked, .long⟩).toList.map (fun p => ⟨p, size⟩) ++ held) := by
      rw [hcalls, replayBlocks_append, h, Option.bind_some]
      cases hanswer : reallocFn calls ⟨none, asked, .long⟩ <;>
        simp [replayBlocks, hanswer, hsize]
    -- the answer decides how the call ends, as the two ends leave different blocks behind
    cases hanswer : reallocFn calls ⟨none, asked, .long⟩ with
    | none =>
      rw [hanswer] at hreplay
      refine ⟨fun _ => hreplay, fun hok => ?_⟩
      obtain ⟨p, n, -, -, -, -, hheld⟩ := hspec.succeeded hok
      rw [hcalls] at hheld
      cases hheld.unique (hstart.refused hanswer)
    | some p =>
      rw [hanswer] at hreplay
      refine ⟨fun hfailed => ?_, fun hok => ?_⟩
      · obtain ⟨-, -, hheld⟩ := hspec.failed hfailed
        rw [hcalls] at hheld
        cases hheld.unique (hstart.granted hanswer)
      · obtain ⟨p', n, hout, -, -, -, hheld⟩ := hspec.succeeded hok
        rw [hcalls] at hheld
        cases hheld.unique (hstart.granted hanswer)
        exact ⟨_, p, hcalls, rfl, hsize, hanswer, hout, hreplay⟩

end Calls

/-! ## The client's steps -/

namespace AllocSession

section Steps

variable {realloc : CRealloc T} {alloc : Option (B64CAllocator T)} {s s' : AllocSession T}

theorem Sound.init (reallocFn : B64ReallocFn T) (memory : Nat → Byte) :
    Sound reallocFn ⟨[], memory, []⟩ where
  held := rfl
  intact := .nil memory
  lengths r hr := by cases hr

/-- What is in memory behind an argument is the value it stands for, and a call can be made
on it. -/
theorem Sound.fetch (h : Sound (resolve realloc alloc) s) {argument : Argument T}
    {inMemory value : List Byte} (hfetch : s.fetch argument = some (inMemory, value)) :
    inMemory = value ∧ value.length < 2 ^ T.sizeBits := by
  cases argument with
  | bytes bs fits =>
    cases hfetch
    exact ⟨rfl, fits⟩
  | result ptr =>
    obtain ⟨r, hfind, hr⟩ := Option.bind_eq_some_iff.mp hfetch
    cases hr
    have hmem := List.mem_of_find?_eq_some hfind
    have hreads := h.intact.reads r.owned (List.mem_map_of_mem hmem)
    have hlen := h.lengths r hmem
    rw [hlen]
    exact ⟨hreads, hlen ▸ r.length.isLt⟩

/-- **A call of a helper**, whatever comes of it. -/
theorem Sound.obtain (hapart : KeepsApart (resolve realloc alloc))
    (h : Sound (resolve realloc alloc) s) {size : Nat} {value : List Byte}
    {r : Base64AllocResult T} (hspec : AllocSpec (resolve realloc alloc) s.calls size value r)
    (hfits : value.length ≤ size) : Sound (resolve realloc alloc) (s.obtain r value) := by
  obtain ⟨hfailed, hgranted⟩ := hspec.blocks h.held
  unfold AllocSession.obtain
  split
  swap
  · next hno => exact ⟨hfailed hno, h.intact, h.lengths⟩
  next hok =>
  obtain ⟨call, p, hcalls, hptr, hsize, hanswer, hout, hheld⟩ := hgranted hok
  obtain ⟨-, n, -, houtlen, hn, hbytes, -⟩ := hspec.succeeded hok
  have hlast : (r.calls.getLast?.map ReallocCall.size).getD 0 = call.size := by
    rw [hcalls, List.getLast?_concat]
    rfl
  rw [Base64AllocResult.bytes, houtlen, Option.getD_some, hn] at hbytes
  simp only [hout, hlast, houtlen, hsize, Option.getD_some]
  refine ⟨?_, ?_, ?_⟩
  · rw [hheld]
    simp only [List.map_cons, LiveResult.owned, hsize]
  · refine h.intact.add ?_ ?_ ?_ ?_
    · intro o ho
      obtain ⟨r', hr', rfl⟩ := List.mem_map.mp ho
      exact hapart _ _ call p h.held hptr hanswer _ (List.mem_map_of_mem hr')
    · simpa [LiveResult.owned, hsize] using hfits
    · have hshift : List.range' p value.length = (List.range' 0 value.length).map (p + ·) := by
        rw [List.map_add_range', Nat.add_zero]
      conv_rhs => rw [LiveResult.owned, ← hbytes]
      simp only [LiveResult.owned, readMemory, hshift, List.map_map]
      apply List.map_congr_left
      intro j hj
      rw [List.mem_range'_1] at hj
      simp only [Function.comp_apply]
      rw [if_pos ⟨Nat.le_add_right p j, .inl (by omega)⟩, Nat.add_sub_cancel_left]
    · intro a ha
      simp only [LiveResult.owned, hsize] at ha
      apply if_neg
      rintro ⟨hle, hlt | hstored⟩
      · omega
      · have hlt := hspec.stores _ hstored
        omega
  · intro r' hr'
    rcases List.mem_cons.mp hr' with rfl | hr'
    · exact hn
    · exact h.lengths r' hr'

theorem map_eraseP_ptr (live : List (LiveResult T)) (ptr : Nat) :
    (live.map fun r => r.owned.block).eraseP (·.ptr = ptr) =
      (live.eraseP (·.ptr = ptr)).map fun r => r.owned.block := by
  rw [List.eraseP_map]
  rfl

/-- **One step** of the client. -/
theorem Sound.step (hapart : KeepsApart (resolve realloc alloc))
    (h : Sound (resolve realloc alloc) s) {op : SessionOp T}
    (hstep : s.step realloc alloc op = some s') : Sound (resolve realloc alloc) s' := by
  cases op with
  | encode simd contents plaintext =>
    obtain ⟨⟨inMemory, value⟩, hfetch, hs⟩ := Option.bind_eq_some_iff.mp hstep
    cases hs
    obtain ⟨rfl, hlen⟩ := h.fetch hfetch
    exact h.obtain hapart
      (base64EncodeAlloc_spec realloc simd alloc s.calls contents hlen none 0).1
      (Nat.le_add_right _ 1)
  | decode simd contents code =>
    obtain ⟨⟨inMemory, value⟩, hfetch, hs⟩ := Option.bind_eq_some_iff.mp hstep
    cases hs
    obtain ⟨rfl, hlen⟩ := h.fetch hfetch
    have hdecoded : (Rfc4648.decode inMemory).length = 6 * (sextets inMemory).length / 8 := by
      rw [Rfc4648.decode, BitString.length_groups, BitString.length_ofDigits]
    have hle := length_sextets_le inMemory
    exact h.obtain hapart
      (base64DecodeAlloc_spec realloc simd alloc s.calls contents hlen none 0) (by omega)
  | free ptr =>
    cases ptr with
    | none =>
      cases hstep
      exact h
    | some ptr =>
      simp only [AllocSession.step] at hstep
      split at hstep
      swap
      · cases hstep
      next hlive =>
      cases hstep
      refine ⟨?_, h.intact.sublist (List.eraseP_sublist.map _), ?_⟩
      · have hheld : ptr ∈ (s.live.map fun r => r.owned.block).map Block.ptr := by
          rw [List.map_map]
          exact hlive
        exact (replayBlocks_giveBack h.held hheld).trans (congrArg some (map_eraseP_ptr ..))
      · intro r hr
        exact h.lengths r (List.mem_of_mem_eraseP hr)

theorem Sound.run (hapart : KeepsApart (resolve realloc alloc))
    (h : Sound (resolve realloc alloc) s) {ops : List (SessionOp T)}
    (hrun : s.run realloc alloc ops = some s') : Sound (resolve realloc alloc) s' := by
  induction ops generalizing s with
  | nil =>
    cases hrun
    exact h
  | cons op ops ih =>
    obtain ⟨s₁, hstep, hrun⟩ := Option.bind_eq_some_iff.mp hrun
    exact ih (h.step hapart hstep) hrun

/-- The client can free all that is live. -/
theorem run_freeAll (realloc : CRealloc T) (alloc : Option (B64CAllocator T))
    (s : AllocSession T) : ∃ ops s', s.run realloc alloc ops = some s' ∧ s'.live = [] := by
  obtain ⟨calls, memory, live⟩ := s
  induction live generalizing calls with
  | nil => exact ⟨[], _, rfl, rfl⟩
  | cons r live ih =>
    obtain ⟨ops, s', hrun, hnil⟩ := ih (base64Free calls (some r.ptr))
    refine ⟨.free (some r.ptr) :: ops, s', ?_, hnil⟩
    rw [AllocSession.run, AllocSession.step, if_pos (List.mem_map_of_mem List.mem_cons_self)]
    simpa using hrun

end Steps

end AllocSession

/-- **Any session with an allocator that keeps blocks apart**: the blocks that are out are those of
the live results, each to itself; every live result reads as its value; no call gave back what was
not out; and the client can free all, after which nothing is out. -/
theorem allocSession_sound (T : Target) (realloc : CRealloc T) (alloc : Option (B64CAllocator T))
    (hapart : KeepsApart (resolve realloc alloc)) (memory : Nat → Byte)
    (ops : List (SessionOp T)) (s : AllocSession T)
    (h : AllocSession.run realloc alloc ⟨[], memory, []⟩ ops = some s) :
    replayBlocks (resolve realloc alloc) [] [] s.calls =
        some (s.live.map fun r => ⟨r.ptr, r.size.toNat⟩) ∧
      (s.live.Pairwise fun r r' =>
        Block.Apart ⟨r.ptr, r.size.toNat⟩ ⟨r'.ptr, r'.size.toNat⟩) ∧
      (∀ r ∈ s.live, readMemory s.memory r.ptr r.length.toNat = r.value) ∧
      ∃ ops' s', s.run realloc alloc ops' = some s' ∧ s'.live = [] ∧
        replayBlocks (resolve realloc alloc) [] [] s'.calls = some [] := by
  have hsound := (AllocSession.Sound.init (resolve realloc alloc) memory).run hapart h
  obtain ⟨ops', s', hrun, hnil⟩ := s.run_freeAll realloc alloc
  refine ⟨hsound.held, ?_, ?_, ops', s', hrun, hnil, ?_⟩
  · have hpairs := hsound.intact.apart
    rw [List.pairwise_map] at hpairs
    exact hpairs
  · intro r hr
    rw [hsound.lengths r hr]
    exact hsound.intact.reads r.owned (List.mem_map_of_mem hr)
  · have hheld := (hsound.run hapart hrun).held
    rw [hnil] at hheld
    exact hheld

/-- A callback that hands out one block after the other and never takes one again. -/
def bumpRealloc : B64ReallocFn T := fun calls call =>
  if call.size = 0 then none else some (calls.map fun c => c.size.toNat).sum

theorem bumpRealloc_below {calls new : List (ReallocCall T)} {held held' : List Block}
    (h : replayBlocks bumpRealloc calls held new = some held')
    (hbelow : ∀ b ∈ held, b.ptr + b.size ≤ (calls.map fun c => c.size.toNat).sum) :
    ∀ b ∈ held', b.ptr + b.size ≤ ((calls ++ new).map fun c => c.size.toNat).sum := by
  induction new generalizing calls held with
  | nil =>
    cases h
    simpa using hbelow
  | cons call new ih =>
    have hmono : ∀ b ∈ held,
        b.ptr + b.size ≤ ((calls ++ [call]).map fun c => c.size.toNat).sum := by
      intro b hb
      have hle := hbelow b hb
      simp only [List.map_append, List.sum_append, List.map_singleton, List.sum_singleton]
      omega
    rw [← List.singleton_append, ← List.append_assoc]
    simp only [replayBlocks] at h
    split at h
    · cases h
    split at h
    · split at h
      · exact ih h hmono
      · next p hanswer =>
        refine ih h fun b hb => ?_
        rcases List.mem_cons.mp hb with rfl | hb
        · unfold bumpRealloc at hanswer
          split at hanswer
          · cases hanswer
          · cases hanswer
            simp
        · exact hmono b hb
    · split at h
      · exact ih h fun b hb => hmono b (List.mem_of_mem_eraseP hb)
      · cases h

theorem bumpRealloc_keepsApart : KeepsApart (bumpRealloc (T := T)) := by
  intro calls held call p hheld _ hanswer b hb
  have hbelow := bumpRealloc_below hheld (fun b hb => by cases hb) b hb
  unfold bumpRealloc at hanswer
  split at hanswer
  · cases hanswer
  · cases hanswer
    exact .inr hbelow

/-- A text is encoded, the result decoded from memory, and the first block freed before the
second. -/
theorem allocSession_sound_foo :
    let alloc : Option (B64CAllocator i386) := some ⟨some bumpRealloc⟩
    let ops : List (SessionOp i386) :=
      [.encode encodeSimdNone (fun _ => 7) (.bytes ("foo".toList.map charCode) (by decide)),
        .decode decodeSimdNone (fun _ => 7) (.result 0), .free (some 0)]
    ∃ s : AllocSession i386,
      AllocSession.run (fun _ _ _ => none) alloc ⟨[], fun _ => 9, []⟩ ops = some s ∧
        replayBlocks bumpRealloc [] [] s.calls =
          some (s.live.map fun r => ⟨r.ptr, r.size.toNat⟩) ∧
        (s.live.Pairwise fun r r' =>
          Block.Apart ⟨r.ptr, r.size.toNat⟩ ⟨r'.ptr, r'.size.toNat⟩) ∧
        (∀ r ∈ s.live, readMemory s.memory r.ptr r.length.toNat = r.value) ∧
        ∃ ops' s', s.run (fun _ _ _ => none) alloc ops' = some s' ∧ s'.live = [] ∧
          replayBlocks bumpRealloc [] [] s'.calls = some [] := by
  intro alloc ops
  have hsome : (AllocSession.run (fun _ _ _ => none) alloc ⟨[], fun _ => 9, []⟩ ops).isSome := by
    decide +kernel
  obtain ⟨s, hs⟩ := Option.isSome_iff_exists.mp hsome
  exact ⟨s, hs, allocSession_sound i386 (fun _ _ _ => none) alloc bumpRealloc_keepsApart
    (fun _ => 9) ops s hs⟩

end Libb64
