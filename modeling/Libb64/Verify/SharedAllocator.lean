import Mathlib.Logic.Function.Basic
import Libb64.Verify.Balloc
import Libb64.Verify.ScratchBalance

/-!
# One callback for everything

A program may give one callback to all its encoders and decoders and to the allocating helpers.
Whatever it does with them, and in whatever order, the blocks the callback has out between two calls
are those the helpers returned and the program has not freed, all of them asked for as long-lived;
scratch blocks come back within the call that took them, every block comes back with the hint it was
asked for with, and none is ever resized (`program_accounts`).
-/

namespace Libb64

variable {T : Target} {ι : Type}

/-- Follows all calls a callback has had, made after `calls`, with the blocks `held` out, each with
its hint: `none` if one of them resizes a block or gives back what is not out with that hint. -/
def account (answer : List (ReallocCall T) → ReallocCall T → Option Nat)
    (calls : List (ReallocCall T)) (held : List (Nat × B64Memlife)) :
    List (ReallocCall T) → Option (List (Nat × B64Memlife))
  | [] => some held
  | call :: new =>
    match call.ptr with
    | none =>
      account answer (calls ++ [call])
        ((answer calls call).toList.map (·, call.life) ++ held) new
    | some p =>
      if call.size = 0 ∧ (p, call.life) ∈ held then
        account answer (calls ++ [call]) (held.erase (p, call.life)) new
      else
        none

/-- The objects of a program, the calls its callback has had, and the results of the helpers that
it has not freed. -/
structure Program (T : Target) (ι : Type) where
  encoders : ι → Encoder T
  decoders : ι → Decoder T
  calls : List (ReallocCall T)
  results : List Nat

inductive ProgramOp (T : Target) (ι : Type) where
  | encodeBlock (i : ι) (simd : Base64EncodeBulkSimd) (codeIn : List Byte)
  | encodeEnd (i : ι)
  | encodeStream (i : ι) (simd : Base64EncodeBulkSimd) (istreamIn : List Byte)
  | decodeBlock (i : ι) (simd : Base64DecodeBulkSimd) (contents : Nat → Byte) (codeIn : List Byte)
  | decodeStream (i : ι) (simd : Base64DecodeBulkSimd) (contents : Nat → Byte)
    (istreamIn : List Byte)
  | encodeAlloc (simd : Base64EncodeBulkSimd) (contents : Nat → Byte) (plaintext : List Byte)
    (fits : plaintext.length < 2 ^ T.sizeBits)
  | decodeAlloc (simd : Base64DecodeBulkSimd) (contents : Nat → Byte) (code : List Byte)
    (fits : code.length < 2 ^ T.sizeBits)
  | free (ptr : Option Nat)

namespace Program

/-- All objects are built with the one callback. -/
def start (alloc : B64Allocator T) (encoders : ι → EncoderBuilder T)
    (decoders : ι → DecoderBuilder T) : Program T ι where
  encoders i := { encoders i with alloc }.build
  decoders i := { decoders i with alloc }.build
  calls := []
  results := []

variable [DecidableEq ι]

/-- One call; a program frees only what the helpers returned to it. -/
def step (realloc : CRealloc T) (alloc : B64Allocator T) (s : Program T ι) :
    ProgramOp T ι → Option (Program T ι)
  | .encodeBlock i simd codeIn =>
    let e := s.encoders i
    let r := encoderEncode simd codeIn e.state
    some { s with encoders := Function.update s.encoders i { e with state := r.state } }
  | .encodeEnd i =>
    let e := s.encoders i
    let r := base64EncodeBlockend e.state
    some { s with encoders := Function.update s.encoders i { e with state := r.state } }
  | .encodeStream i simd istreamIn =>
    let r := (s.encoders i).encodeStream simd s.calls istreamIn
    some { s with encoders := Function.update s.encoders i r.encoder, calls := r.calls }
  | .decodeBlock i simd contents codeIn =>
    let d := s.decoders i
    let r := decoderDecode T simd codeIn (.fresh contents) d.state
    some { s with decoders := Function.update s.decoders i { d with state := r.state } }
  | .decodeStream i simd contents istreamIn =>
    let r := (s.decoders i).decodeStream simd s.calls contents istreamIn
    some { s with decoders := Function.update s.decoders i r.decoder, calls := r.calls }
  | .encodeAlloc simd contents plaintext _ =>
    let r := base64EncodeAlloc realloc simd (some ⟨some alloc.answer⟩) s.calls contents plaintext
      (some none) (some 0)
    some { s with calls := r.calls, results := (r.out.getD none).toList ++ s.results }
  | .decodeAlloc simd contents code _ =>
    let r := base64DecodeAlloc realloc simd (some ⟨some alloc.answer⟩) s.calls contents code
      (some none) (some 0)
    some { s with calls := r.calls, results := (r.out.getD none).toList ++ s.results }
  | .free none => some { s with calls := base64Free s.calls none }
  | .free (some p) =>
    if p ∈ s.results then
      some { s with calls := base64Free s.calls (some p), results := s.results.erase p }
    else
      none

def run (realloc : CRealloc T) (alloc : B64Allocator T) (s : Program T ι) :
    List (ProgramOp T ι) → Option (Program T ι)
  | [] => some s
  | op :: ops => (s.step realloc alloc op).bind fun s' => s'.run realloc alloc ops

end Program

/-! ## The account -/

section Account

variable {answer : List (ReallocCall T) → ReallocCall T → Option Nat} {life : B64Memlife}
  {calls calls' : List (ReallocCall T)} {held held' : List Nat}
  {others : List (Nat × B64Memlife)}

theorem account_append (blocks : List (Nat × B64Memlife)) (new new' : List (ReallocCall T)) :
    account answer calls blocks (new ++ new') =
      (account answer calls blocks new).bind fun blocks' =>
        account answer (calls ++ new) blocks' new' := by
  induction new generalizing calls blocks with
  | nil => simp [account]
  | cons call new ih =>
    simp only [List.cons_append, account]
    split
    · rw [ih, List.append_assoc, List.singleton_append]
    · split
      · rw [ih, List.append_assoc, List.singleton_append]
      · rfl

theorem map_erase_hint (held : List Nat) (p : Nat) (life : B64Memlife) :
    (held.erase p).map (·, life) = (held.map (·, life)).erase (p, life) := by
  have hinj : Function.Injective fun q : Nat => (q, life) := fun q q' heq => congrArg Prod.fst heq
  exact List.map_erase hinj held

/-- What a call does with its own blocks it also does with other blocks out. -/
theorem account_of_replay {new : List (ReallocCall T)}
    (h : replay answer life calls held new = some held') (others : List (Nat × B64Memlife)) :
    account answer calls (held.map (·, life) ++ others) new =
      some (held'.map (·, life) ++ others) := by
  induction new generalizing calls held with
  | nil =>
    cases h
    rfl
  | cons call new ih =>
    simp only [replay] at h
    split at h
    · cases h
    next hlife =>
    rw [not_not] at hlife
    cases hptr : call.ptr with
    | none =>
      simp only [hptr] at h
      have hrest := ih h
      rw [List.map_append, List.append_assoc] at hrest
      simpa only [account, hptr, hlife] using hrest
    | some p =>
      simp only [hptr] at h
      split at h
      swap
      · cases h
      next hback =>
      have hmem : (p, life) ∈ held.map (·, life) := List.mem_map_of_mem hback.2
      have hrest := ih h
      rw [map_erase_hint] at hrest
      simpa only [account, hptr, hlife, hback.1, List.mem_append, hmem, true_or, and_self, if_true,
        List.erase_append_left others hmem] using hrest

theorem Outstanding.account (h : Outstanding answer life calls calls' held)
    (hc : account answer [] [] calls = some others) :
    Libb64.account answer [] [] calls' = some (held.map (·, life) ++ others) := by
  obtain ⟨new, rfl, hnew⟩ := h
  rw [account_append, hc, Option.bind_some, List.nil_append]
  exact account_of_replay hnew others

/-- An account that adds up has no resizing in it. -/
theorem size_zero_of_account {blocks blocks' : List (Nat × B64Memlife)}
    {new : List (ReallocCall T)} (h : account answer calls blocks new = some blocks') :
    ∀ call ∈ new, call.ptr ≠ none → call.size = 0 := by
  induction new generalizing calls blocks with
  | nil => simp
  | cons call new ih =>
    intro call' hmem hptr'
    simp only [account] at h
    split at h
    · next hptr =>
      rcases List.mem_cons.mp hmem with rfl | hmem
      · exact absurd hptr hptr'
      · exact ih h call' hmem hptr'
    · split at h
      swap
      · cases h
      next hback =>
      rcases List.mem_cons.mp hmem with rfl | hmem
      · exact hback.1
      · exact ih h call' hmem hptr'

/-- A helper leaves what it returns. -/
theorem AllocSpec.account {results : List Nat} {size : Nat} {bytes : List Byte}
    {r : Base64AllocResult T} (hspec : AllocSpec answer calls size bytes r)
    (hc : Libb64.account answer [] [] calls = some (results.map (·, .long))) :
    Libb64.account answer [] [] r.calls =
      some (((r.out.getD none).toList ++ results).map (·, .long)) := by
  rw [List.map_append]
  by_cases hok : r.returned = 0
  · obtain ⟨p, n, hout, -, -, -, hheld⟩ := hspec.succeeded hok
    rw [hout]
    exact hheld.account hc
  · obtain ⟨hout, -, hheld⟩ := hspec.failed hok
    rw [hout]
    exact hheld.account hc

end Account

/-! ## The program's steps -/

theorem encodeStream_alloc (simd : Base64EncodeBulkSimd) (e : Encoder T)
    (calls : List (ReallocCall T)) (istreamIn : List Byte) :
    (e.encodeStream simd calls istreamIn).encoder.alloc = e.alloc := by
  by_cases hgranted : e.cap ≠ 0 ∧ e.Granted calls (e.cap + 16)
  · rw [(encodeStream_text simd hgranted.1 hgranted.2 istreamIn).2.1]
  · rw [(encodeStream_of_not_granted simd e calls istreamIn hgranted).2.2.1]

theorem decodeStream_alloc (simd : Base64DecodeBulkSimd) (d : Decoder T)
    (calls : List (ReallocCall T)) (contents : Nat → Byte) (istreamIn : List Byte) :
    (d.decodeStream simd calls contents istreamIn).decoder.alloc = d.alloc := by
  by_cases hgranted : d.Granted calls
  · rw [(decodeStream_of_granted simd hgranted contents istreamIn).1]
  · rw [(decodeStream_of_not_granted simd d calls contents istreamIn hgranted).1]

/-- The callback never throws. -/
def B64Allocator.Quiet (alloc : B64Allocator T) : Prop :=
  ∀ calls call, alloc.reallocFn calls call ≠ .badAlloc

theorem B64Allocator.Quiet.not_throwsSecond {alloc : B64Allocator T} (h : alloc.Quiet)
    (calls : List (ReallocCall T)) (n n' : T.SizeT) : ¬alloc.ThrowsSecond calls n n' := by
  rintro ⟨calls', p, -, hthrow⟩
  exact h _ _ hthrow

namespace Program

/-- Every object has the callback, and what that has out are the results. -/
structure Sound (alloc : B64Allocator T) (s : Program T ι) : Prop where
  encoders : ∀ i, (s.encoders i).alloc = alloc
  decoders : ∀ i, (s.decoders i).alloc = alloc
  held : account alloc.answer [] [] s.calls = some (s.results.map (·, .long))

theorem Sound.start (alloc : B64Allocator T) (encoders : ι → EncoderBuilder T)
    (decoders : ι → DecoderBuilder T) : Sound alloc (start alloc encoders decoders) :=
  ⟨fun _ => rfl, fun _ => rfl, rfl⟩

section Steps

variable [DecidableEq ι] {realloc : CRealloc T} {alloc : B64Allocator T} {s s' : Program T ι}

theorem Sound.update_encoder (h : Sound alloc s) (i : ι) {e : Encoder T} (he : e.alloc = alloc) :
    ∀ k, (Function.update s.encoders i e k).alloc = alloc := by
  intro k
  rcases eq_or_ne k i with rfl | hne
  · rw [Function.update_self, he]
  · rw [Function.update_of_ne hne, h.encoders]

theorem Sound.update_decoder (h : Sound alloc s) (i : ι) {d : Decoder T} (hd : d.alloc = alloc) :
    ∀ k, (Function.update s.decoders i d k).alloc = alloc := by
  intro k
  rcases eq_or_ne k i with rfl | hne
  · rw [Function.update_self, hd]
  · rw [Function.update_of_ne hne, h.decoders]

/-- **One call** of the program. -/
theorem Sound.step (hquiet : alloc.Quiet) (h : Sound alloc s) {op : ProgramOp T ι}
    (hstep : s.step realloc alloc op = some s') : Sound alloc s' := by
  cases op with
  | encodeBlock i simd codeIn =>
    cases hstep
    exact ⟨h.update_encoder i (h.encoders i), h.decoders, h.held⟩
  | encodeEnd i =>
    cases hstep
    exact ⟨h.update_encoder i (h.encoders i), h.decoders, h.held⟩
  | encodeStream i simd istreamIn =>
    cases hstep
    have hbalanced := (encodeStream_balanced_iff simd (s.encoders i) s.calls istreamIn).mpr
      fun hleak => (h.encoders i ▸ hquiet).not_throwsSecond _ _ _ hleak.2
    rw [h.encoders i] at hbalanced
    exact ⟨h.update_encoder i ((encodeStream_alloc ..).trans (h.encoders i)), h.decoders,
      hbalanced.account h.held⟩
  | decodeBlock i simd contents codeIn =>
    cases hstep
    exact ⟨h.encoders, h.update_decoder i (h.decoders i), h.held⟩
  | decodeStream i simd contents istreamIn =>
    cases hstep
    have hbalanced := (decodeStream_balanced_iff simd (s.decoders i) s.calls contents
      istreamIn).mpr fun hleak => (h.decoders i ▸ hquiet).not_throwsSecond _ _ _ hleak
    rw [h.decoders i] at hbalanced
    exact ⟨h.encoders, h.update_decoder i ((decodeStream_alloc ..).trans (h.decoders i)),
      hbalanced.account h.held⟩
  | encodeAlloc simd contents plaintext fits =>
    cases hstep
    have hspec := (base64EncodeAlloc_spec realloc simd (some ⟨some alloc.answer⟩) s.calls contents
      fits none 0).1
    exact ⟨h.encoders, h.decoders, hspec.account h.held⟩
  | decodeAlloc simd contents code fits =>
    cases hstep
    have hspec := base64DecodeAlloc_spec realloc simd (some ⟨some alloc.answer⟩) s.calls contents
      fits none 0
    exact ⟨h.encoders, h.decoders, hspec.account h.held⟩
  | free ptr =>
    cases ptr with
    | none =>
      cases hstep
      exact h
    | some p =>
      simp only [Program.step] at hstep
      split at hstep
      swap
      · cases hstep
      next hlive =>
      cases hstep
      refine ⟨h.encoders, h.decoders, ?_⟩
      have hmem : (p, B64Memlife.long) ∈ s.results.map (·, .long) := List.mem_map_of_mem hlive
      rw [map_erase_hint, base64Free, account_append, h.held, Option.bind_some]
      simp only [account, hmem, and_self, if_true]

theorem Sound.run (hquiet : alloc.Quiet) (h : Sound alloc s) {ops : List (ProgramOp T ι)}
    (hrun : s.run realloc alloc ops = some s') : Sound alloc s' := by
  induction ops generalizing s with
  | nil =>
    cases hrun
    exact h
  | cons op ops ih =>
    obtain ⟨s₁, hstep, hrun⟩ := Option.bind_eq_some_iff.mp hrun
    exact ih (h.step hquiet hstep) hrun

variable (realloc alloc) in
/-- The program can free all that it has. -/
theorem run_freeAll (s : Program T ι) :
    ∃ ops s', s.run realloc alloc ops = some s' ∧ s'.results = [] := by
  obtain ⟨encoders, decoders, calls, results⟩ := s
  induction results generalizing calls with
  | nil => exact ⟨[], _, rfl, rfl⟩
  | cons p results ih =>
    obtain ⟨ops, s', hrun, hnil⟩ := ih (base64Free calls (some p))
    refine ⟨.free (some p) :: ops, s', ?_, hnil⟩
    rw [Program.run, Program.step, if_pos List.mem_cons_self]
    simpa using hrun

end Steps

end Program

/-- **The account of a program in whole**: between any two calls the callback has out what the
helpers returned and the program has not freed, and nothing else; no block was resized or given back
with another hint; and the program can free all, after which nothing is out. -/
theorem program_accounts [DecidableEq ι] (T : Target) (realloc : CRealloc T)
    (alloc : B64Allocator T) (hquiet : alloc.Quiet) (encoders : ι → EncoderBuilder T)
    (decoders : ι → DecoderBuilder T) (ops : List (ProgramOp T ι)) (s : Program T ι)
    (h : (Program.start alloc encoders decoders).run realloc alloc ops = some s) :
    account alloc.answer [] [] s.calls = some (s.results.map (·, .long)) ∧
      (∀ call ∈ s.calls, call.ptr ≠ none → call.size = 0) ∧
      ∃ ops' s', s.run realloc alloc ops' = some s' ∧ s'.results = [] ∧
        account alloc.answer [] [] s'.calls = some [] := by
  have hsound := (Program.Sound.start alloc encoders decoders).run hquiet h
  obtain ⟨ops', s', hrun, hnil⟩ := s.run_freeAll realloc alloc
  refine ⟨hsound.held, size_zero_of_account hsound.held, ops', s', hrun, hnil, ?_⟩
  have hheld := (hsound.run hquiet hrun).held
  rw [hnil] at hheld
  exact hheld

/-- A callback that hands out one address after the other. -/
def countingAllocator (T : Target) : B64Allocator T where
  reallocFn calls call := if call.size = 0 then .null else .block (calls.length + 1)
  size_zero _ _ h := if_pos h

theorem countingAllocator_quiet (T : Target) : (countingAllocator T).Quiet := by
  intro calls call h
  simp only [countingAllocator] at h
  split at h <;> cases h

/-- An encoder and a decoder between two helpers, and the first result freed before the second. -/
theorem program_accounts_foo :
    let ops : List (ProgramOp i386 Unit) :=
      [.encodeAlloc encodeSimdNone (fun _ => 7) ("foo".toList.map charCode) (by decide),
        .encodeStream () encodeSimdNone ("bar".toList.map charCode),
        .decodeAlloc decodeSimdNone (fun _ => 7) ("Zm9v".toList.map charCode) (by decide),
        .decodeStream () decodeSimdNone (fun _ => 7) ("YmFy".toList.map charCode), .free (some 1)]
    ∃ s : Program i386 Unit,
      (Program.start (countingAllocator i386) (fun _ => ⟨2, 4, countingAllocator i386⟩)
        fun _ => ⟨2, countingAllocator i386⟩).run (fun _ _ _ => none) (countingAllocator i386) ops =
          some s ∧
        account (countingAllocator i386).answer [] [] s.calls = some (s.results.map (·, .long)) ∧
        (∀ call ∈ s.calls, call.ptr ≠ none → call.size = 0) ∧
        ∃ ops' s', s.run (fun _ _ _ => none) (countingAllocator i386) ops' = some s' ∧
          s'.results = [] ∧ account (countingAllocator i386).answer [] [] s'.calls = some [] := by
  intro ops
  have hsome : ((Program.start (countingAllocator i386) (fun _ => ⟨2, 4, countingAllocator i386⟩)
      fun _ => ⟨2, countingAllocator i386⟩).run (fun _ _ _ => none) (countingAllocator i386)
        ops).isSome := by
    decide +kernel
  obtain ⟨s, hs⟩ := Option.isSome_iff_exists.mp hsome
  exact ⟨s, hs, program_accounts i386 _ _ (countingAllocator_quiet i386) _ _ ops s hs⟩

end Libb64
