import Libb64.Verify.Blocks
import Libb64.Verify.Streams

/-!
# Giving the scratch blocks back

The stream functions take two scratch blocks. Their cleanup looks at a `NULL` answer; a callback
that throws instead, as the default one does, leaves the function before it, and the first block is
lost if it is the second request that throws (`Encoder.Leaks`, `Decoder.Leaks`). On every other exit
nothing is outstanding, and a call that failed is not noticed by later streams
(`scratch_balanced_iff`).
-/

namespace Libb64

open Rfc4648

variable {T : Target}

/-- From here on the allocator grants every request. -/
def B64Allocator.WorksAfter (alloc : B64Allocator T) (calls : List (ReallocCall T)) : Prop :=
  ∀ later call, call.ptr = none → call.size ≠ 0 →
    ∃ p, alloc.reallocFn (calls ++ later) call = .block p

/-- The first of two requests is granted, and the second throws. -/
def B64Allocator.ThrowsSecond (alloc : B64Allocator T) (calls : List (ReallocCall T))
    (n n' : T.SizeT) : Prop :=
  ∃ calls' p, alloc.allocScratch calls n = (calls', .block p) ∧
    (alloc.allocScratch calls' n').2 = .badAlloc

/-- The encoder gets as far as its second request, and that throws. -/
def Encoder.Leaks (e : Encoder T) (calls : List (ReallocCall T)) : Prop :=
  e.cap ≠ 0 ∧ e.alloc.ThrowsSecond calls (T.ofInt e.buffersize) (e.cap + 16)

/-- The decoder's second request throws. -/
def Decoder.Leaks (d : Decoder T) (calls : List (ReallocCall T)) : Prop :=
  d.alloc.ThrowsSecond calls (T.ofInt d.buffersize) (base64DecodeMaxlength (T.ofInt d.buffersize))

/-- All scratch blocks are given back, and if the call throws, the object is as it was, and a later
stream with an allocator that works comes out as if the call had not been made. -/
structure Encoder.StreamClean (simd : Base64EncodeBulkSimd) (e : Encoder T)
    (calls : List (ReallocCall T)) (istreamIn : List Byte) : Prop where
  balanced : Outstanding e.alloc.answer .short calls (e.encodeStream simd calls istreamIn).calls []
  unchanged : (e.encodeStream simd calls istreamIn).thrown = true →
    (e.encodeStream simd calls istreamIn).encoder = e
  unnoticed : (e.encodeStream simd calls istreamIn).thrown = true →
    ∀ calls₁ calls₂ later, e.alloc.WorksAfter calls₁ → e.alloc.WorksAfter calls₂ →
      let r₁ := (e.encodeStream simd calls istreamIn).encoder.encodeStream simd calls₁ later
      let r₂ := e.encodeStream simd calls₂ later
      r₁.thrown = r₂.thrown ∧ r₁.ostreamOut = r₂.ostreamOut

/-- As for the encoder; but a stream starts from a fresh state, throw or not, so that the object is
as it was only where no text of block calls was left unfinished. -/
structure Decoder.StreamClean (simd : Base64DecodeBulkSimd) (d : Decoder T)
    (calls : List (ReallocCall T)) (contents : Nat → Byte) (istreamIn : List Byte) : Prop where
  balanced : Outstanding d.alloc.answer .short calls
    (d.decodeStream simd calls contents istreamIn).calls []
  unchanged : (d.decodeStream simd calls contents istreamIn).thrown = true →
    d.state = base64InitDecodestate → (d.decodeStream simd calls contents istreamIn).decoder = d
  unnoticed : (d.decodeStream simd calls contents istreamIn).thrown = true →
    ∀ calls₁ calls₂ contents₁ contents₂ later, d.alloc.WorksAfter calls₁ →
      d.alloc.WorksAfter calls₂ →
      let r₁ := (d.decodeStream simd calls contents istreamIn).decoder.decodeStream simd calls₁
        contents₁ later
      let r₂ := d.decodeStream simd calls₂ contents₂ later
      r₁.thrown = r₂.thrown ∧ r₁.ostreamOut = r₂.ostreamOut

/-! ## The requests -/

section Requests

variable {alloc : B64Allocator T} {calls calls' calls'' : List (ReallocCall T)} {held : List Nat}
  {n n' : T.SizeT} {p : Nat}

theorem Outstanding.allocScratch (h : Outstanding alloc.answer .short calls calls' held)
    (hp : alloc.allocScratch calls' n = (calls'', .block p)) :
    Outstanding alloc.answer .short calls calls'' (p :: held) := by
  obtain ⟨rfl, hanswer⟩ := Prod.mk.inj hp
  refine h.granted ?_
  rw [B64Allocator.answer, hanswer]
  rfl

theorem Outstanding.allocScratch_failed {reply : ReallocReply}
    (h : Outstanding alloc.answer .short calls calls' held)
    (hreply : alloc.allocScratch calls' n = (calls'', reply)) (hnone : reply.ptr = none) :
    Outstanding alloc.answer .short calls calls'' held := by
  obtain ⟨rfl, hanswer⟩ := Prod.mk.inj hreply
  refine h.refused ?_
  rw [B64Allocator.answer, hanswer, hnone]

theorem Outstanding.freeScratch (h : Outstanding alloc.answer .short calls calls' [p]) :
    Outstanding alloc.answer .short calls (freeScratch calls' p) [] := by
  have hback := h.giveBack (List.mem_singleton_self p)
  rw [List.erase_cons_head] at hback
  exact hback

theorem Outstanding.freeScratch_both {p' : Nat}
    (h : Outstanding alloc.answer .short calls calls' [p', p]) :
    Outstanding alloc.answer .short calls (Libb64.freeScratch (Libb64.freeScratch calls' p') p) [] ∧
      Outstanding alloc.answer .short calls
        (Libb64.freeScratch (Libb64.freeScratch calls' p) p') [] := by
  have hsecond := h.giveBack List.mem_cons_self
  have hfirst := h.giveBack (List.mem_cons_of_mem p' (List.mem_singleton_self p))
  have herase : [p', p].erase p = [p'] := by
    by_cases hne : p' = p
    · rw [hne, List.erase_cons_head]
    · rw [List.erase_cons_tail (by simpa using hne), List.erase_cons_head]
  rw [List.erase_cons_head] at hsecond
  rw [herase] at hfirst
  exact ⟨hsecond.freeScratch, hfirst.freeScratch⟩

theorem not_throwsSecond {reply : ReallocReply} (h : alloc.allocScratch calls n = (calls', reply))
    (hnone : reply.ptr = none) : ¬alloc.ThrowsSecond calls n n' := by
  rintro ⟨calls₁, p, hp, -⟩
  rw [h] at hp
  obtain ⟨-, rfl⟩ := Prod.mk.inj hp
  cases hnone

theorem throwsSecond_iff (h : alloc.allocScratch calls n = (calls', .block p)) :
    alloc.ThrowsSecond calls n n' ↔ (alloc.allocScratch calls' n').2 = .badAlloc := by
  constructor
  · rintro ⟨calls₁, p₁, hp, hthrow⟩
    obtain ⟨rfl, -⟩ := Prod.mk.inj (h.symm.trans hp)
    exact hthrow
  · intro hthrow
    exact ⟨calls', p, h, hthrow⟩

/-- An allocator that works grants the requests that are not empty. -/
theorem B64Allocator.WorksAfter.grantsBoth_iff (h : alloc.WorksAfter calls) :
    alloc.GrantsBoth calls n n' ↔ n ≠ 0 ∧ n' ≠ 0 := by
  have hzero : ∀ calls calls' p, alloc.allocScratch calls 0 ≠ (calls', .block p) := by
    intro calls calls' p heq
    have hreply := congrArg Prod.snd heq
    rw [B64Allocator.allocScratch, alloc.size_zero _ _ rfl] at hreply
    cases hreply
  constructor
  · rintro ⟨calls', calls'', p, p', hp, hp'⟩
    refine ⟨?_, ?_⟩
    · rintro rfl
      exact hzero _ _ _ hp
    · rintro rfl
      exact hzero _ _ _ hp'
  · rintro ⟨hn, hn'⟩
    obtain ⟨p, hp⟩ := h [] { ptr := none, size := n, life := .short } rfl hn
    obtain ⟨p', hp'⟩ := h [{ ptr := none, size := n, life := .short }]
      { ptr := none, size := n', life := .short } rfl hn'
    rw [List.append_nil] at hp
    exact ⟨_, _, p, p', Prod.ext rfl hp, Prod.ext rfl hp'⟩

end Requests

/-! ## The exits -/

/-- **The encoder** keeps a block exactly where its second request throws. -/
theorem encodeStream_balanced_iff (simd : Base64EncodeBulkSimd) (e : Encoder T)
    (calls : List (ReallocCall T)) (istreamIn : List Byte) :
    Outstanding e.alloc.answer .short calls (e.encodeStream simd calls istreamIn).calls [] ↔
      ¬e.Leaks calls := by
  have hstart := Outstanding.refl e.alloc.answer .short calls
  unfold Encoder.encodeStream Encoder.Leaks
  dsimp only
  split
  · next calls' hfirst =>
    exact iff_of_true (hstart.allocScratch_failed hfirst rfl)
      fun hleak => not_throwsSecond hfirst rfl hleak.2
  · next calls' hfirst =>
    exact iff_of_true (hstart.allocScratch_failed hfirst rfl)
      fun hleak => not_throwsSecond hfirst rfl hleak.2
  · next calls' plaintext hfirst =>
    have hone := hstart.allocScratch hfirst
    rw [throwsSecond_iff hfirst]
    split
    · next hcap => exact iff_of_true hone.freeScratch fun hleak => hleak.1 hcap
    · next hcap =>
      split
      · next calls'' hsecond =>
        -- the exit that cleans nothing up
        refine iff_of_false (fun hnil => ?_) (not_not_intro ⟨hcap, congrArg Prod.snd hsecond⟩)
        cases hnil.unique (hone.allocScratch_failed hsecond rfl)
      · next calls'' hsecond =>
        refine iff_of_true (hone.allocScratch_failed hsecond rfl).freeScratch fun hleak => ?_
        cases (congrArg Prod.snd hsecond).symm.trans hleak.2
      · next calls'' code hsecond =>
        refine iff_of_true (hone.allocScratch hsecond).freeScratch_both.1 fun hleak => ?_
        cases (congrArg Prod.snd hsecond).symm.trans hleak.2

/-- **The decoder**, likewise. -/
theorem decodeStream_balanced_iff (simd : Base64DecodeBulkSimd) (d : Decoder T)
    (calls : List (ReallocCall T)) (contents : Nat → Byte) (istreamIn : List Byte) :
    Outstanding d.alloc.answer .short calls
        (d.decodeStream simd calls contents istreamIn).calls [] ↔ ¬d.Leaks calls := by
  have hstart := Outstanding.refl d.alloc.answer .short calls
  unfold Decoder.decodeStream Decoder.Leaks
  dsimp only
  split
  · next calls' hfirst =>
    exact iff_of_true (hstart.allocScratch_failed hfirst rfl) (not_throwsSecond hfirst rfl)
  · next calls' hfirst =>
    exact iff_of_true (hstart.allocScratch_failed hfirst rfl) (not_throwsSecond hfirst rfl)
  · next calls' code hfirst =>
    have hone := hstart.allocScratch hfirst
    rw [throwsSecond_iff hfirst]
    split
    · next calls'' hsecond =>
      refine iff_of_false (fun hnil => ?_) (not_not_intro (congrArg Prod.snd hsecond))
      cases hnil.unique (hone.allocScratch_failed hsecond rfl)
    · next calls'' hsecond =>
      refine iff_of_true (hone.allocScratch_failed hsecond rfl).freeScratch fun hleak => ?_
      cases (congrArg Prod.snd hsecond).symm.trans hleak
    · next calls'' plaintext hsecond =>
      refine iff_of_true (hone.allocScratch hsecond).freeScratch_both.2 fun hleak => ?_
      cases (congrArg Prod.snd hsecond).symm.trans hleak

/-! ## Later streams -/

/-- What an encoder with a working allocator reports does not depend on the calls before. -/
theorem encodeStream_works (simd : Base64EncodeBulkSimd) (e : Encoder T)
    {calls₁ calls₂ : List (ReallocCall T)} (h₁ : e.alloc.WorksAfter calls₁)
    (h₂ : e.alloc.WorksAfter calls₂) (istreamIn : List Byte) :
    let r₁ := e.encodeStream simd calls₁ istreamIn
    let r₂ := e.encodeStream simd calls₂ istreamIn
    r₁.thrown = r₂.thrown ∧ r₁.ostreamOut = r₂.ostreamOut := by
  have hiff₁ : e.Granted calls₁ (e.cap + 16) ↔ _ := h₁.grantsBoth_iff
  have hiff₂ : e.Granted calls₂ (e.cap + 16) ↔ _ := h₂.grantsBoth_iff
  by_cases hgranted : e.cap ≠ 0 ∧ e.Granted calls₁ (e.cap + 16)
  · obtain ⟨hcap, hblocks⟩ := hgranted
    obtain ⟨_, _, _, _, hplain₂, hcode₂⟩ := hiff₂.mpr (hiff₁.mp hblocks)
    obtain ⟨_, _, _, _, hplain₁, hcode₁⟩ := hblocks
    rw [encodeStream_of_granted simd hplain₁ hcap hcode₁,
      encodeStream_of_granted simd hplain₂ hcap hcode₂]
    exact ⟨rfl, rfl⟩
  · have hrefused : ¬(e.cap ≠ 0 ∧ e.Granted calls₂ (e.cap + 16)) := by
      rwa [hiff₂, ← hiff₁]
    obtain ⟨hthrown₁, -, -, hout₁⟩ := encodeStream_of_not_granted simd e calls₁ istreamIn hgranted
    obtain ⟨hthrown₂, -, -, hout₂⟩ := encodeStream_of_not_granted simd e calls₂ istreamIn hrefused
    exact ⟨hthrown₁.trans hthrown₂.symm, hout₁.trans hout₂.symm⟩

/-- Nor does what a decoder reports, which also starts from a fresh state. -/
theorem decodeStream_works (simd : Base64DecodeBulkSimd) (d : Decoder T)
    {calls₁ calls₂ : List (ReallocCall T)} (h₁ : d.alloc.WorksAfter calls₁)
    (h₂ : d.alloc.WorksAfter calls₂) (contents₁ contents₂ : Nat → Byte) (istreamIn : List Byte) :
    let r₁ := { d with state := base64InitDecodestate }.decodeStream simd calls₁ contents₁ istreamIn
    let r₂ := d.decodeStream simd calls₂ contents₂ istreamIn
    r₁.thrown = r₂.thrown ∧ r₁.ostreamOut = r₂.ostreamOut := by
  have hreset : { d with state := base64InitDecodestate }.decodeStream simd calls₁ contents₁
    istreamIn = d.decodeStream simd calls₁ contents₁ istreamIn := rfl
  have hiff₁ : d.Granted calls₁ ↔ _ := h₁.grantsBoth_iff
  have hiff₂ : d.Granted calls₂ ↔ _ := h₂.grantsBoth_iff
  rw [hreset]
  by_cases hgranted : d.Granted calls₁
  · obtain ⟨-, hthrown₁, hout₁⟩ := decodeStream_of_granted simd hgranted contents₁ istreamIn
    obtain ⟨-, hthrown₂, hout₂⟩ :=
      decodeStream_of_granted simd (hiff₂.mpr (hiff₁.mp hgranted)) contents₂ istreamIn
    exact ⟨hthrown₁.trans hthrown₂.symm, hout₁.trans hout₂.symm⟩
  · have hrefused : ¬d.Granted calls₂ := by
      rwa [hiff₂, ← hiff₁]
    obtain ⟨-, hthrown₁, hout₁⟩ :=
      decodeStream_of_not_granted simd d calls₁ contents₁ istreamIn hgranted
    obtain ⟨-, hthrown₂, hout₂⟩ :=
      decodeStream_of_not_granted simd d calls₂ contents₂ istreamIn hrefused
    exact ⟨hthrown₁.trans hthrown₂.symm, hout₁.trans hout₂.symm⟩

theorem encodeStream_clean_iff (simd : Base64EncodeBulkSimd) (e : Encoder T)
    (calls : List (ReallocCall T)) (istreamIn : List Byte) :
    e.StreamClean simd calls istreamIn ↔ ¬e.Leaks calls := by
  rw [← encodeStream_balanced_iff simd e calls istreamIn]
  have hsame : (e.encodeStream simd calls istreamIn).thrown = true →
      (e.encodeStream simd calls istreamIn).encoder = e := by
    intro hthrown
    have hrefused : ¬(e.cap ≠ 0 ∧ e.Granted calls (e.cap + 16)) := by
      rintro ⟨hcap, _, _, _, _, hplain, hcode⟩
      rw [encodeStream_of_granted simd hplain hcap hcode] at hthrown
      cases hthrown
    exact (encodeStream_of_not_granted simd e calls istreamIn hrefused).2.2.1
  refine ⟨fun h => h.balanced, fun h => ⟨h, hsame, ?_⟩⟩
  intro hthrown calls₁ calls₂ later h₁ h₂
  rw [hsame hthrown]
  exact encodeStream_works simd e h₁ h₂ later

theorem decodeStream_clean_iff (simd : Base64DecodeBulkSimd) (d : Decoder T)
    (calls : List (ReallocCall T)) (contents : Nat → Byte) (istreamIn : List Byte) :
    d.StreamClean simd calls contents istreamIn ↔ ¬d.Leaks calls := by
  rw [← decodeStream_balanced_iff simd d calls contents istreamIn]
  have hsame : (d.decodeStream simd calls contents istreamIn).thrown = true →
      (d.decodeStream simd calls contents istreamIn).decoder =
        { d with state := base64InitDecodestate } := by
    intro hthrown
    have hrefused : ¬d.Granted calls := by
      intro hgranted
      obtain ⟨-, hok, -⟩ := decodeStream_of_granted simd hgranted contents istreamIn
      rw [hok] at hthrown
      cases hthrown
    exact (decodeStream_of_not_granted simd d calls contents istreamIn hrefused).1
  refine ⟨fun h => h.balanced, fun h => ⟨h, ?_, ?_⟩⟩
  · intro hthrown hfresh
    rw [hsame hthrown, ← hfresh]
  · intro hthrown calls₁ calls₂ contents₁ contents₂ later h₁ h₂
    rw [hsame hthrown]
    exact decodeStream_works simd d h₁ h₂ contents₁ contents₂ later

/-- **The scratch blocks are balanced exactly where the second request does not throw**, in both
stream functions, for every allocator, configuration and stream. -/
theorem scratch_balanced_iff (T : Target) (encodeSimd : Base64EncodeBulkSimd) (e : Encoder T)
    (decodeSimd : Base64DecodeBulkSimd) (d : Decoder T) (calls : List (ReallocCall T))
    (contents : Nat → Byte) (istreamIn : List Byte) :
    (e.StreamClean encodeSimd calls istreamIn ↔ ¬e.Leaks calls) ∧
      (d.StreamClean decodeSimd calls contents istreamIn ↔ ¬d.Leaks calls) :=
  ⟨encodeStream_clean_iff encodeSimd e calls istreamIn,
    decodeStream_clean_iff decodeSimd d calls contents istreamIn⟩

/-- **A lost block**: with the default callback, an operator `new[]` that runs out at the second
request makes both stream functions leave without giving the first block back. -/
theorem scratch_not_balanced :
    let alloc : B64Allocator x86_64 :=
      defaultCppAllocator fun calls _ => if calls.length = 0 then some 1 else none
    ¬(EncoderBuilder.build ⟨65536, 0, alloc⟩).StreamClean encodeSimdNone []
        ("abc".toList.map charCode) ∧
      ¬(DecoderBuilder.build ⟨65536, alloc⟩).StreamClean decodeSimdNone [] (fun _ => 0)
        ("YWJj".toList.map charCode) := by
  intro alloc
  rw [encodeStream_clean_iff, decodeStream_clean_iff, not_not, not_not]
  exact ⟨⟨by decide +kernel, _, 1, rfl, by decide +kernel⟩, ⟨_, 1, rfl, by decide +kernel⟩⟩

end Libb64
