import Libb64.EncodeStream
import Libb64.DecodeStream
import Libb64.Verify.DecodeOutput
import Libb64.Verify.EncodeLength

/-!
# The stream wrappers

Reading a stream buffer by buffer is one way of cutting it into block calls, so the loops of the
wrappers do what the block functions do on the whole stream. An object is left as it was built, up
to the allocator's memory, which is why it can be used again (`streams_oneShot`).
-/

namespace Libb64

open BitString Rfc4648 Lines

variable {T : Target}

/-! ## Buffer sizes and allocators -/

/-- The allocator never fails. -/
def B64Allocator.Succeeds (alloc : B64Allocator T) : Prop :=
  ∀ calls call, call.ptr = none → call.size ≠ 0 → ∃ p, alloc.reallocFn calls call = .block p

theorem B64Allocator.Succeeds.allocScratch {alloc : B64Allocator T} (h : alloc.Succeeds)
    (calls : List (ReallocCall T)) {n : T.SizeT} (hn : 0 < n.toNat) :
    ∃ calls' p, alloc.allocScratch calls n = (calls', .block p) := by
  obtain ⟨p, hp⟩ := h calls { ptr := none, size := n, life := .short } rfl
    (ne_zero_of_toNat_pos hn)
  exact ⟨_, p, Prod.ext rfl hp⟩

/-- Two requests in a row are answered with a block. -/
def B64Allocator.GrantsBoth (alloc : B64Allocator T) (calls : List (ReallocCall T))
    (n n' : T.SizeT) : Prop :=
  ∃ calls' calls'' p p', alloc.allocScratch calls n = (calls', .block p) ∧
    alloc.allocScratch calls' n' = (calls'', .block p')

theorem toNat_pos_of_toInt {n : CInt} (h : 1 ≤ n.toInt) : 0 < n.toNat ∧ n.toNat < 2 ^ 31 := by
  have hlt := n.isLt
  rw [BitVec.toInt_eq_toNat_cond] at h
  split at h <;> omega

theorem toNat_ofInt (hw : 32 ≤ T.sizeBits) {n : CInt} (h : 1 ≤ n.toInt) :
    (T.ofInt n).toNat = n.toNat := by
  obtain ⟨hpos, hlt⟩ := toNat_pos_of_toInt h
  have hpow : 2 ^ 32 ≤ 2 ^ T.sizeBits := Nat.pow_le_pow_right (by decide) hw
  have hint : n.toInt = n.toNat := by
    rw [BitVec.toInt_eq_toNat_cond, if_pos (by omega)]
  rw [Target.ofInt, hint, BitVec.ofInt_natCast, BitVec.toNat_ofNat, Nat.mod_eq_of_lt (by omega)]

theorem encodedLength_le (c n : Nat) : encodedLength c n ≤ 8 * ((n + 2) / 3) + 1 := by
  unfold encodedLength
  have := Nat.div_le_self (4 * ((n + 2) / 3) - 1) c
  split <;> omega

/-! ## Reading a stream -/

section Read

variable {N : Nat} {istreamIn : List Byte}

/-- The loops go on as long as whole buffers are delivered. -/
theorem istreamRead_goes_on (hN : 0 < N) :
    ((istreamRead istreamIn N).good ∧ (istreamRead istreamIn N).delivered.length > 0) ↔
      N ≤ istreamIn.length := by
  simp only [istreamRead, decide_eq_true_eq, List.length_take]
  omega

theorem istreamRead_append (istreamIn : List Byte) (N : Nat) :
    (istreamRead istreamIn N).delivered ++ (istreamRead istreamIn N).remaining = istreamIn :=
  List.take_append_drop N istreamIn

theorem istreamRead_remaining_lt (hN : 0 < N)
    (h : (istreamRead istreamIn N).good ∧ (istreamRead istreamIn N).delivered.length > 0) :
    (istreamRead istreamIn N).remaining.length < istreamIn.length := by
  have hle := (istreamRead_goes_on hN).mp h
  simp only [istreamRead, List.length_drop]
  omega

theorem istreamRead_stops (hN : 0 < N)
    (h : ¬((istreamRead istreamIn N).good ∧ (istreamRead istreamIn N).delivered.length > 0)) :
    (istreamRead istreamIn N).delivered = istreamIn := by
  have hlt := mt (istreamRead_goes_on hN).mpr h
  exact List.take_of_length_le (Nat.le_of_lt (Nat.lt_of_not_le hlt))

end Read

/-! ## The encoder's loop -/

theorem encoderEncode_spec (simd : Base64EncodeBulkSimd) (codeIn : List Byte)
    (s : Base64EncodeState T) :
    ∃ calls, plaintextOf calls = codeIn ∧
      (encoderEncode simd codeIn s).state = ((encodeCalls T).run s calls).1 ∧
      (encoderEncode simd codeIn s).codeOut = ((encodeCalls T).run s calls).2 ∧
      (encoderEncode simd codeIn s).returned = (encoderEncode simd codeIn s).codeOut.length := by
  unfold encoderEncode
  split
  · next h => exact ⟨[], (List.length_eq_zero_iff.mp h).symm, rfl, rfl, rfl⟩
  · refine ⟨[⟨simd, codeIn⟩], by simp [plaintextOf], ?_, ?_, ?_⟩
    · rw [Transducer.run_singleton]
      rfl
    · rw [Transducer.run_singleton, encodeCalls_step]
    · exact base64EncodeBlock_returned simd codeIn s

/-- **The read loop** is some division of the stream into block calls. -/
theorem encodeStreamLoop_spec (simd : Base64EncodeBulkSimd) {N : Nat} (hN : 0 < N)
    (istreamIn : List Byte) (s : Base64EncodeState T) :
    ∃ calls, plaintextOf calls = istreamIn ∧
      (encodeStreamLoop simd N istreamIn s).1 = ((encodeCalls T).run s calls).1 ∧
      (encodeStreamLoop simd N istreamIn s).2.2 = ((encodeCalls T).run s calls).2 := by
  induction hn : istreamIn.length using Nat.strongRecOn generalizing istreamIn s with
  | _ n ih =>
    obtain ⟨first, hplain, hstate, hcode, hret⟩ :=
      encoderEncode_spec simd (istreamRead istreamIn N).delivered s
    rw [encodeStreamLoop]
    dsimp only
    rw [hret, List.take_length, hcode, hstate]
    split
    · next h =>
      have hlt := hn ▸ istreamRead_remaining_lt hN h
      obtain ⟨calls, hplain', hstate', hcode'⟩ := ih _ hlt _ ((encodeCalls T).run s first).1 rfl
      refine ⟨first ++ calls, ?_, ?_, ?_⟩
      · rw [plaintextOf, List.flatMap_append]
        show plaintextOf first ++ plaintextOf calls = istreamIn
        rw [hplain, hplain', istreamRead_append]
      · rw [Transducer.run_append]
        exact hstate'
      · rw [Transducer.run_append, ← hcode']
    · next h => exact ⟨first, hplain.trans (istreamRead_stops hN h), rfl, rfl⟩

theorem encodeStreamLoop_charsPerLine (simd : Base64EncodeBulkSimd) {N : Nat} (hN : 0 < N)
    (istreamIn : List Byte) (s : Base64EncodeState T) :
    (encodeStreamLoop simd N istreamIn s).1.charsPerLine = s.charsPerLine := by
  obtain ⟨calls, -, hstate, -⟩ := encodeStreamLoop_spec simd hN istreamIn s
  rw [hstate, encodeCalls_charsPerLine]

theorem blockend_charsPerLine (s : Base64EncodeState T) :
    (base64EncodeBlockend s).state.charsPerLine = s.charsPerLine := by
  unfold base64EncodeBlockend
  cases s.step <;> simp

theorem blockend_returned (s : Base64EncodeState T) :
    (base64EncodeBlockend s).returned = (base64EncodeBlockend s).codeOut.length := rfl

/-- The size `encoder::encode` computes for its code block before it adds the constant. -/
def Encoder.cap (e : Encoder T) : T.SizeT :=
  (base64EncodeLength (T.ofInt e.buffersize) e.state).value

/-- The number of bytes a full buffer encodes to from a fresh state. -/
def Encoder.fullLength (e : Encoder T) : Nat :=
  encodedLength e.state.charsPerLine.toNat e.buffersize.toNat

theorem Encoder.toNat_cap (hw : 32 ≤ T.sizeBits) (e : Encoder T) :
    e.cap.toNat = if e.fullLength + 1 < 2 ^ T.sizeBits then e.fullLength else 0 := by
  have h := (base64EncodeLength_computes (T.ofInt e.buffersize) e.state).value
  rw [toNat_ofInt hw e.buffersize_pos] at h
  exact h

theorem Encoder.fullLength_bounds (e : Encoder T) :
    e.buffersize.toNat < e.fullLength ∧ e.fullLength < 2 ^ 33 := by
  obtain ⟨hpos, hlt⟩ := toNat_pos_of_toInt e.buffersize_pos
  have hle := encodedLength_le e.state.charsPerLine.toNat e.buffersize.toNat
  have hge : 4 * ((e.buffersize.toNat + 2) / 3) ≤ e.fullLength := Nat.le_add_right _ _
  unfold Encoder.fullLength at hge ⊢
  omega

/-- With both blocks obtained the stream is encoded and the state reset. -/
theorem encodeStream_of_granted (simd : Base64EncodeBulkSimd) {e : Encoder T}
    {calls calls' calls'' : List (ReallocCall T)} {plaintext code : Nat}
    (hplain : e.alloc.allocScratch calls (T.ofInt e.buffersize) = (calls', .block plaintext))
    (hcap : e.cap ≠ 0)
    (hcode : e.alloc.allocScratch calls' (e.cap + 16) = (calls'', .block code))
    (istreamIn : List Byte) :
    let loop := encodeStreamLoop simd e.buffersize.toNat istreamIn e.state
    let r := base64EncodeBlockend loop.1
    e.encodeStream simd calls istreamIn =
      { encoder := { e with
          state := { base64InitEncodestate T with charsPerLine := r.state.charsPerLine } }
        calls := freeScratch (freeScratch calls'' code) plaintext
        thrown := false
        codeSize := some (e.cap + 16)
        codeStores := loop.2.1 ++ [r.codeOut]
        ostreamOut := loop.2.2 ++ r.codeOut.take r.returned } := by
  unfold Encoder.cap at hcap hcode
  simp only [Encoder.encodeStream, hplain, if_neg hcap, hcode]
  rfl

/-- The allocator answers both requests with a block, the second for `size` bytes. -/
def Encoder.Granted (e : Encoder T) (calls : List (ReallocCall T)) (size : T.SizeT) : Prop :=
  ∃ calls' calls'' plaintext code,
    e.alloc.allocScratch calls (T.ofInt e.buffersize) = (calls', .block plaintext) ∧
      e.alloc.allocScratch calls' size = (calls'', .block code)

/-- Without both blocks the stream function throws, stores nothing and leaves the object alone. -/
theorem encodeStream_of_not_granted (simd : Base64EncodeBulkSimd) (e : Encoder T)
    (calls : List (ReallocCall T)) (istreamIn : List Byte)
    (h : ¬(e.cap ≠ 0 ∧ e.Granted calls (e.cap + 16))) :
    let r := e.encodeStream simd calls istreamIn
    r.thrown = true ∧ r.codeStores = [] ∧ r.encoder = e ∧ r.ostreamOut = [] := by
  unfold Encoder.encodeStream
  dsimp only
  split
  · exact ⟨rfl, rfl, rfl, rfl⟩
  · exact ⟨rfl, rfl, rfl, rfl⟩
  · next calls' plaintext hplain =>
    split
    · exact ⟨rfl, rfl, rfl, rfl⟩
    · next hcap =>
      split
      · exact ⟨rfl, rfl, rfl, rfl⟩
      · exact ⟨rfl, rfl, rfl, rfl⟩
      · next calls'' code hcode => exact absurd ⟨hcap, _, _, _, _, hplain, hcode⟩ h

/-- **A stream through an object in any state**: the text is that of block calls and the closing
call, and the state is reset. -/
theorem encodeStream_text (simd : Base64EncodeBulkSimd) {e : Encoder T}
    {calls : List (ReallocCall T)} (hcap : e.cap ≠ 0) (h : e.Granted calls (e.cap + 16))
    (istreamIn : List Byte) :
    let r := e.encodeStream simd calls istreamIn
    r.thrown = false ∧ r.encoder = { e with state := freshEncodestate e.state.charsPerLine } ∧
      ∃ blocks, plaintextOf blocks = istreamIn ∧ r.ostreamOut = encodeFrom e.state blocks := by
  obtain ⟨calls', calls'', plaintext, code, hplain, hcode⟩ := h
  obtain ⟨hpos, -⟩ := toNat_pos_of_toInt e.buffersize_pos
  obtain ⟨blocks, hblocks, hstate, hout⟩ := encodeStreamLoop_spec simd hpos istreamIn e.state
  have hcpl := encodeStreamLoop_charsPerLine simd hpos istreamIn e.state
  rw [encodeStream_of_granted simd hplain hcap hcode]
  refine ⟨rfl, ?_, blocks, hblocks, ?_⟩
  · dsimp only
    rw [blockend_charsPerLine, hcpl]
    rfl
  · dsimp only
    rw [hout, hstate]
    rfl

/-- **A stream through an object as it was built**, with an allocator that does not fail: the
text is the one-shot encoding and the object is again as it was built. -/
theorem encodeStream_fresh (hT : T.sizeBits = 64) (simd : Base64EncodeBulkSimd)
    (b : EncoderBuilder T) (hb : b.alloc.Succeeds) (calls : List (ReallocCall T))
    (istreamIn : List Byte) :
    let r := b.build.encodeStream simd calls istreamIn
    r.encoder = b.build ∧ r.thrown = false ∧
      r.ostreamOut = encodeSession b.charsPerLine [⟨simd, istreamIn⟩] := by
  have hw : 32 ≤ T.sizeBits := by omega
  have hcap := b.build.toNat_cap hw
  obtain ⟨hpos, -⟩ := toNat_pos_of_toInt b.build.buffersize_pos
  obtain ⟨hlo, hhi⟩ := b.build.fullLength_bounds
  have hpow : 2 ^ T.sizeBits = 2 ^ 64 := by rw [hT]
  rw [if_pos (by omega)] at hcap
  have h16 : (16 : T.SizeT).toNat = 16 := toNat_ofNat_of_lt (by decide)
  have hsum : (b.build.cap + 16).toNat = b.build.fullLength + 16 := by
    rw [BitVec.toNat_add_of_lt (by omega), hcap, h16]
  have hbuf : 0 < (T.ofInt b.build.buffersize).toNat := by
    rw [toNat_ofInt hw b.build.buffersize_pos]
    exact hpos
  have hne : b.build.cap ≠ 0 := ne_zero_of_toNat_pos (by omega)
  obtain ⟨calls', p, hplain⟩ := hb.allocScratch calls hbuf
  obtain ⟨calls'', p', hcode⟩ := hb.allocScratch calls' (n := b.build.cap + 16) (by omega)
  obtain ⟨hok, hsame, blocks, hblocks, hout⟩ :=
    encodeStream_text simd hne ⟨_, _, _, _, hplain, hcode⟩ istreamIn
  refine ⟨hsame, hok, hout.trans ?_⟩
  have hplain : plaintextOf [⟨simd, istreamIn⟩] = plaintextOf blocks := by
    rw [hblocks]
    simp [plaintextOf]
  rw [encodeSession_eq, hplain, ← encodeSession_eq]
  rfl

/-! ## The decoder's loop -/

theorem decoderDecode_spec (T : Target) (simd : Base64DecodeBulkSimd) {q : List Bool}
    (hq : Carriable q) (codeIn : List Byte) (buf : OutBuf Byte) :
    let r := decoderDecode T simd codeIn buf (carried q)
    r.state = carried (rest 8 (q ++ bits codeIn)) ∧
      r.plaintextOut.slice 0 r.returned = groups 8 (q ++ bits codeIn) := by
  have hlt : q.length < 8 := hq.length_lt
  unfold decoderDecode
  split
  · next h =>
    rw [List.length_eq_zero_iff.mp h]
    simp [rest_of_lt hlt, groups_of_lt hlt]
  · have hspec := base64DecodeBlock_spec T simd hq codeIn 0 buf
    exact ⟨hspec.state, hspec.output.2⟩

theorem decodeStreamLoop_spec (T : Target) (simd : Base64DecodeBulkSimd) {N : Nat} (hN : 0 < N)
    {q : List Bool} (hq : Carriable q) (istreamIn : List Byte) (buf : OutBuf Byte) :
    (decodeStreamLoop T simd N istreamIn buf (carried q)).2 =
      groups 8 (q ++ bits istreamIn) := by
  induction hn : istreamIn.length using Nat.strongRecOn generalizing istreamIn buf q with
  | _ n ih =>
    obtain ⟨hstate, hout⟩ := decoderDecode_spec T simd hq (istreamRead istreamIn N).delivered buf
    rw [decodeStreamLoop]
    dsimp only
    rw [hout, hstate]
    split
    · next h =>
      have hlt := hn ▸ istreamRead_remaining_lt hN h
      dsimp only
      rw [ih _ hlt (hq.rest _) _ _ rfl, ← groups_append (by decide), List.append_assoc,
        ← bits_append, istreamRead_append]
    · next h => rw [istreamRead_stops hN h]

/-- One call of `base64_decode_block` on a whole text from a fresh state. -/
def decodeOneShot (T : Target) (simd : Base64DecodeBulkSimd) (codeIn : List Byte) : List Byte :=
  let r := base64DecodeBlock T simd codeIn 0 (.fresh fun _ => 0) base64InitDecodestate
  r.plaintextOut.slice 0 r.returned

theorem decodeOneShot_eq (T : Target) (simd : Base64DecodeBulkSimd) (codeIn : List Byte) :
    decodeOneShot T simd codeIn = decode codeIn := by
  have hspec := base64DecodeBlock_spec T simd (q := []) (.inl rfl) codeIn 0 (.fresh fun _ => 0)
  rw [carried_nil] at hspec
  exact hspec.output.2

/-- The allocator answers both requests of the decoder with a block. -/
def Decoder.Granted (d : Decoder T) (calls : List (ReallocCall T)) : Prop :=
  d.alloc.GrantsBoth calls (T.ofInt d.buffersize) (base64DecodeMaxlength (T.ofInt d.buffersize))

/-- With both blocks obtained the stream is decoded, whatever the object was used for before. -/
theorem decodeStream_of_granted (simd : Base64DecodeBulkSimd) {d : Decoder T}
    {calls : List (ReallocCall T)} (h : d.Granted calls) (contents : Nat → Byte)
    (istreamIn : List Byte) :
    let r := d.decodeStream simd calls contents istreamIn
    r.decoder = { d with state := base64InitDecodestate } ∧ r.thrown = false ∧
      r.ostreamOut = decode istreamIn := by
  obtain ⟨calls', calls'', code, plaintext, hcode, hplain⟩ := h
  obtain ⟨hpos, -⟩ := toNat_pos_of_toInt d.buffersize_pos
  have hloop := decodeStreamLoop_spec T simd hpos (q := []) (.inl rfl) istreamIn (.fresh contents)
  rw [carried_nil] at hloop
  simp only [Decoder.decodeStream, hcode, hplain, true_and]
  exact hloop

/-- Without them it throws; the state has been reset before. -/
theorem decodeStream_of_not_granted (simd : Base64DecodeBulkSimd) (d : Decoder T)
    (calls : List (ReallocCall T)) (contents : Nat → Byte) (istreamIn : List Byte)
    (h : ¬d.Granted calls) :
    let r := d.decodeStream simd calls contents istreamIn
    r.decoder = { d with state := base64InitDecodestate } ∧ r.thrown = true ∧
      r.ostreamOut = [] := by
  unfold Decoder.decodeStream
  dsimp only
  split
  · exact ⟨rfl, rfl, rfl⟩
  · exact ⟨rfl, rfl, rfl⟩
  · next calls' code hcode =>
    split
    · exact ⟨rfl, rfl, rfl⟩
    · exact ⟨rfl, rfl, rfl⟩
    · next calls'' plaintext hplain => exact absurd ⟨_, _, _, _, hcode, hplain⟩ h

/-- **A stream through a decoder object in any state**, with an allocator that does not fail. -/
theorem decodeStream_any (hT : T.sizeBits = 64) (simd : Base64DecodeBulkSimd) (d : Decoder T)
    (hd : d.alloc.Succeeds) (calls : List (ReallocCall T)) (contents : Nat → Byte)
    (istreamIn : List Byte) :
    let r := d.decodeStream simd calls contents istreamIn
    r.decoder.alloc = d.alloc ∧ r.thrown = false ∧
      r.ostreamOut = decodeOneShot T simd istreamIn := by
  have hw : 32 ≤ T.sizeBits := by omega
  obtain ⟨hpos, hlt⟩ := toNat_pos_of_toInt d.buffersize_pos
  have hsize := toNat_base64DecodeMaxlength (T.ofInt d.buffersize)
  have hbuf : 0 < (T.ofInt d.buffersize).toNat := by
    rw [toNat_ofInt hw d.buffersize_pos]
    exact hpos
  obtain ⟨calls', p, hcode⟩ := hd.allocScratch calls hbuf
  obtain ⟨calls'', p', hplain⟩ := hd.allocScratch calls'
    (n := base64DecodeMaxlength (T.ofInt d.buffersize)) (by omega)
  obtain ⟨hsame, hok, hout⟩ :=
    decodeStream_of_granted simd ⟨_, _, _, _, hcode, hplain⟩ contents istreamIn
  have halloc := congrArg Decoder.alloc hsame
  rw [decodeOneShot_eq]
  exact ⟨halloc, hok, hout⟩

/-! ## Objects in use -/

/-- Streams one after another through an encoder object: whether each call threw, and the text it
wrote. -/
def encoderStreams (simd : Base64EncodeBulkSimd) :
    Transducer (Encoder T × List (ReallocCall T)) (List Byte) (Bool × List Byte) where
  step s istreamIn :=
    let r := s.1.encodeStream simd s.2 istreamIn
    ((r.encoder, r.calls), [(r.thrown, r.ostreamOut)])

/-- What a caller may do with a decoder object: a stream, or a block into a buffer of its own. -/
inductive DecoderOp where
  | stream (contents : Nat → Byte) (istreamIn : List Byte)
  | block (plaintextOut : OutBuf Byte) (codeIn : List Byte)

/-- Calls on a decoder object; only streams are reported. -/
def decoderOps (simd : Base64DecodeBulkSimd) :
    Transducer (Decoder T × List (ReallocCall T)) DecoderOp (Bool × List Byte) where
  step s
    | .stream contents istreamIn =>
      let r := s.1.decodeStream simd s.2 contents istreamIn
      ((r.decoder, r.calls), [(r.thrown, r.ostreamOut)])
    | .block plaintextOut codeIn =>
      let r := decoderDecode T simd codeIn plaintextOut s.1.state
      (({ s.1 with state := r.state }, s.2), [])

/-- What a call on a decoder should report. -/
def DecoderOp.expected (T : Target) (simd : Base64DecodeBulkSimd) :
    DecoderOp → List (Bool × List Byte)
  | .stream _ istreamIn => [(false, decodeOneShot T simd istreamIn)]
  | .block _ _ => []

theorem encoderStreams_oneShot (hT : T.sizeBits = 64) (simd : Base64EncodeBulkSimd)
    (b : EncoderBuilder T) (hb : b.alloc.Succeeds) (calls : List (ReallocCall T))
    (streams : List (List Byte)) :
    ((encoderStreams simd).run (b.build, calls) streams).2 =
      streams.map fun istreamIn => (false, encodeSession b.charsPerLine [⟨simd, istreamIn⟩]) := by
  induction streams generalizing calls with
  | nil => rfl
  | cons istreamIn streams ih =>
    obtain ⟨hsame, hok, hout⟩ := encodeStream_fresh hT simd b hb calls istreamIn
    have hstep : (encoderStreams simd).step (b.build, calls) istreamIn =
        ((b.build, (b.build.encodeStream simd calls istreamIn).calls),
          [(false, encodeSession b.charsPerLine [⟨simd, istreamIn⟩])]) := by
      simp only [encoderStreams, hsame, hok, hout]
    rw [Transducer.run_cons, hstep, ih]
    rfl

theorem decoderOps_oneShot (hT : T.sizeBits = 64) (simd : Base64DecodeBulkSimd) (d : Decoder T)
    (hd : d.alloc.Succeeds) (calls : List (ReallocCall T)) (ops : List DecoderOp) :
    ((decoderOps simd).run (d, calls) ops).2 = ops.flatMap (DecoderOp.expected T simd) := by
  induction ops generalizing d calls with
  | nil => rfl
  | cons op ops ih =>
    rw [Transducer.run_cons, List.flatMap_cons]
    cases op with
    | stream contents istreamIn =>
      obtain ⟨halloc, hok, hout⟩ := decodeStream_any hT simd d hd calls contents istreamIn
      dsimp only [decoderOps, DecoderOp.expected]
      rw [hok, hout]
      exact congrArg _ (ih _ (by rw [halloc]; exact hd) _)
    | block plaintextOut codeIn =>
      exact ih { d with state := (decoderDecode T simd codeIn plaintextOut d.state).state } hd calls

/-- **Streams come out as in one shot**, through an encoder object built with any buffer size and
line width and used again and again, and through a decoder object with block calls in between. -/
theorem streams_oneShot (T : Target) (hT : T.sizeBits = 64)
    (encodeSimd : Base64EncodeBulkSimd) (encoder : EncoderBuilder T)
    (hencoder : encoder.alloc.Succeeds) (decodeSimd : Base64DecodeBulkSimd)
    (decoder : DecoderBuilder T) (hdecoder : decoder.alloc.Succeeds)
    (calls : List (ReallocCall T)) (streams : List (List Byte)) (ops : List DecoderOp) :
    ((encoderStreams encodeSimd).run (encoder.build, calls) streams).2 =
        streams.map (fun istreamIn =>
          (false, encodeSession encoder.charsPerLine [⟨encodeSimd, istreamIn⟩])) ∧
      ((decoderOps decodeSimd).run (decoder.build, calls) ops).2 =
        ops.flatMap (DecoderOp.expected T decodeSimd) :=
  ⟨encoderStreams_oneShot hT encodeSimd encoder hencoder calls streams,
    decoderOps_oneShot hT decodeSimd decoder.build hdecoder calls ops⟩

/-- A heap that never runs out: each block has the number of the call that asked for it. -/
theorem defaultCppAllocator_succeeds :
    (defaultCppAllocator (T := T) fun calls _ => some (calls.length + 1)).Succeeds := by
  intro calls call _ hsize
  exact ⟨calls.length + 1, if_pos hsize⟩

/-- Two streams through one-byte buffers, the first empty, and a stream after a partial block. -/
theorem streams_oneShot_small :
    let alloc : B64Allocator x86_64 := defaultCppAllocator fun calls _ => some (calls.length + 1)
    ((encoderStreams encodeSimdNone).run (EncoderBuilder.build ⟨-3, 2, alloc⟩, [])
        [[], "foo".toList.map charCode]).2 =
        [[], "foo".toList.map charCode].map (fun istreamIn =>
          (false, encodeSession (T := x86_64) 2 [⟨encodeSimdNone, istreamIn⟩])) ∧
      ((decoderOps decodeSimdNone).run (DecoderBuilder.build ⟨1, alloc⟩, [])
        [.block (.fresh fun _ => 0) ("Zm9".toList.map charCode),
          .stream (fun _ => 7) ("Zm9v".toList.map charCode)]).2 =
        [(false, decodeOneShot x86_64 decodeSimdNone ("Zm9v".toList.map charCode))] :=
  streams_oneShot x86_64 rfl encodeSimdNone ⟨-3, 2, _⟩ defaultCppAllocator_succeeds decodeSimdNone
    ⟨1, _⟩ defaultCppAllocator_succeeds [] [[], "foo".toList.map charCode]
    [.block (.fresh fun _ => 0) ("Zm9".toList.map charCode),
      .stream (fun _ => 7) ("Zm9v".toList.map charCode)]

end Libb64
