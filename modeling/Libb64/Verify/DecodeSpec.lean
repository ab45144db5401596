import Libb64.Verify.DecodeSteps

/-!
# What the decoder's states stand for

A state stands for the bits read and not yet written (`carried`). One relation says what a stretch
of decoding does to the output buffer (`Decoded`): where it ends, which bytes are there, and which
indices it stored to. It composes (`Decoded.trans`), so the scalar loop, its quad loop, the bulk
kernel and the dispatching loop are all stretches one after another. The partial byte is always
written before it is read back; that is the loop's invariant.
-/

namespace Libb64

open BitString Rfc4648

variable {T : Target}

/-- The bits that a text's alphabet characters spell. -/
def bits (code : List Byte) : List Bool := ofDigits (sextets code)

/-- The labels in the order of the enumeration. -/
def stepAt : Nat → Base64DecodeStep
  | 0 => .stepa
  | 1 => .stepb
  | 2 => .stepc
  | _ => .stepd

/-- The state that carries the bits `q`: two fewer of them for each character after the first. -/
def carried (q : List Bool) : Base64DecodeState where
  step := stepAt ((4 - q.length / 2) % 4)
  plainchar := digit 8 q

/-- An even number of bits, fewer than a byte. -/
def Carriable (q : List Bool) : Prop :=
  q.length = 0 ∨ q.length = 2 ∨ q.length = 4 ∨ q.length = 6

/-- Decoding `code` with the bits `q` carried in took the output from index `o` of `buf` to index
`o'` of `buf'`. The last field bounds the indices stored to, also for the partial byte: by the
bits there are, and by the bits there would be if all of `code` were in the alphabet. -/
structure Decoded (q : List Bool) (code : List Byte) (o : Nat) (buf : OutBuf Byte) (o' : Nat)
    (buf' : OutBuf Byte) : Prop where
  position : o' = o + (q ++ bits code).length / 8
  bytes : buf'.slice o ((q ++ bits code).length / 8) = groups 8 (q ++ bits code)
  below : ∀ j < o, buf'.read j = buf.read j
  stores : ∀ j ∈ buf'.stores, j ∈ buf.stores ∨
    o ≤ j ∧ 8 * (j - o) ≤ q.length + 6 * (sextets code).length ∧
      8 * (j - o) < q.length + 6 * code.length

/-! ## Bits and carries -/

@[simp] theorem bits_nil : bits [] = [] := rfl

@[simp] theorem bits_append (c d : List Byte) : bits (c ++ d) = bits c ++ bits d := by
  simp [bits]

@[simp] theorem length_bits (code : List Byte) :
    (bits code).length = 6 * (sextets code).length := by
  simp [bits]

theorem length_sextets_le (code : List Byte) : (sextets code).length ≤ code.length :=
  List.length_filterMap_le ..

theorem Carriable.rest {q : List Bool} (hq : Carriable q) (code : List Byte) :
    Carriable (rest 8 (q ++ bits code)) := by
  unfold Carriable at *
  rw [length_rest, List.length_append, length_bits]
  omega

theorem Carriable.length_lt {q : List Bool} (hq : Carriable q) : q.length < 8 := by
  unfold Carriable at hq
  omega

theorem carried_nil : carried [] = base64InitDecodestate := rfl

/-- A character of the alphabet with anything skipped before it. -/
theorem bits_char {skipped : List Byte} {c : Byte} {v : Sextet} (hs : sextets skipped = [])
    (hc : value c = some v) : bits (skipped ++ [c]) = ofDigit v := by
  rw [bits, sextets_append, hs, sextets_cons_of_some hc]
  simp

theorem bits_symbols (vs : List Sextet) : bits (vs.map symbol) = ofDigits vs := by
  rw [bits, sextets_map_symbol]

/-! ## Stretches of decoding -/

namespace Decoded

variable {q : List Bool} {code code' : List Byte} {o o' o'' : Nat} {buf buf' buf'' : OutBuf Byte}

/-- Characters outside the alphabet change nothing. -/
theorem refl (hq : q.length < 8) (hs : sextets code = []) : Decoded q code o buf o buf where
  position := by simp [hs, Nat.div_eq_of_lt hq]
  bytes := by simp [bits, hs, Nat.div_eq_of_lt hq, groups_of_lt hq]
  below _ _ := rfl
  stores _ h := .inl h

/-- **Stretches compose**, the second with the bits that the first left over. -/
theorem trans (h : Decoded q code o buf o' buf')
    (h' : Decoded (rest 8 (q ++ bits code)) code' o' buf' o'' buf'') :
    Decoded q (code ++ code') o buf o'' buf'' := by
  have hlen : (q ++ bits (code ++ code')).length / 8 =
      (q ++ bits code).length / 8 + (rest 8 (q ++ bits code) ++ bits code').length / 8 := by
    simp only [bits_append, List.length_append, length_rest, length_bits]
    omega
  have hpos := h.position
  refine ⟨?_, ?_, ?_, ?_⟩
  · rw [hlen, h'.position, hpos, Nat.add_assoc]
  · have hkept : buf''.slice o ((q ++ bits code).length / 8) = groups 8 (q ++ bits code) := by
      rw [← h.bytes]
      exact OutBuf.slice_congr fun j _ hj => h'.below j (by omega)
    rw [hlen, OutBuf.slice_append, ← hpos, h'.bytes, hkept, bits_append, ← List.append_assoc,
      ← groups_append (by omega)]
  · intro j hj
    rw [h'.below j (by omega), h.below j hj]
  · intro j hj
    have hrest := length_rest (w := 8) (q ++ bits code)
    rw [List.length_append, length_bits] at hrest hpos
    rw [sextets_append, List.length_append, List.length_append]
    have hle := length_sextets_le code
    rcases h'.stores j hj with hj | ⟨hge, hbits, hchars⟩
    · rcases h.stores j hj with hj | hj
      · exact .inl hj
      · right
        omega
    · right
      omega

/-- A list of bytes stored where the output stands, the last one possibly partial. -/
theorem storeList (q : List Bool) (code : List Byte) (o : Nat) (buf : OutBuf Byte) :
    Decoded q code o buf (o + (q ++ bits code).length / 8)
      (buf.storeList o (padded 8 (q ++ bits code))) where
  position := rfl
  bytes := by
    rw [← length_groups]
    unfold padded
    split
    · exact OutBuf.slice_storeList ..
    · exact OutBuf.slice_storeList_append ..
  below j hj := OutBuf.read_storeList_of_lt _ _ hj
  stores := by
    intro j hj
    have hle := length_sextets_le code
    rw [OutBuf.mem_stores_storeList, length_padded (by omega), List.length_append,
      length_bits] at hj
    rcases hj with hj | hj
    · exact .inl hj
    · right
      omega

end Decoded

/-- Clean quads with nothing carried in are three bytes each, and nothing is left over. -/
theorem Decoded.quads {vs : List Sextet} (h : 4 ∣ vs.length) (o : Nat) (buf : OutBuf Byte) :
    Decoded [] (vs.map symbol) o buf (o + vs.length / 4 * 3)
        (buf.storeList o (groups 8 (ofDigits vs))) ∧
      rest 8 ([] ++ bits (vs.map symbol)) = [] := by
  have hrest : rest 8 ([] ++ bits (vs.map symbol)) = [] := by
    rw [← List.length_eq_zero_iff, length_rest, List.nil_append, length_bits, sextets_map_symbol]
    omega
  have hstored := Decoded.storeList [] (vs.map symbol) o buf
  have hpos : ([] ++ bits (vs.map symbol)).length / 8 = vs.length / 4 * 3 := by
    rw [List.nil_append, length_bits, sextets_map_symbol]
    omega
  rw [padded, if_pos hrest, hpos, List.nil_append, bits_symbols] at hstored
  exact ⟨hstored, hrest⟩

theorem read_storeList_padded (buf : OutBuf Byte) (o : Nat) {t : List Bool} (h : rest 8 t ≠ []) :
    (buf.storeList o (padded 8 t)).read (o + t.length / 8) = digit 8 (rest 8 t) := by
  rw [padded, if_neg h, OutBuf.storeList_append, length_groups]
  exact OutBuf.read_store_self ..

/-! ## The scalar loop -/

/-- The label after a character. -/
def nextStep : Base64DecodeStep → Base64DecodeStep
  | .stepa => .stepb
  | .stepb => .stepc
  | .stepc => .stepd
  | .stepd => .stepa

/-- The bytes a character stores from the output position on, by the label it is read at; `x` is
the partial byte there and `f` the fragment. -/
def stored (T : Target) (x : Byte) (f : CInt) : Base64DecodeStep → List Byte
  | .stepa => [toChar ((f &&& 0x03f) <<< 2)]
  | .stepb => [toChar (T.promote x ||| (f &&& 0x030).sshiftRight 4), toChar ((f &&& 0x00f) <<< 4)]
  | .stepc => [toChar (T.promote x ||| (f &&& 0x03c).sshiftRight 2), toChar ((f &&& 0x003) <<< 6)]
  | .stepd => [toChar (T.promote x ||| (f &&& 0x03f))]

section Loop

variable {q : List Bool} {code code' : List Byte} {o : Nat} {buf : OutBuf Byte} {v : Sextet}
  {step : Base64DecodeStep}

/-- Inside a group the loop ends with the partial byte in the state. -/
theorem decodeLoop_none (hstep : step ≠ .stepa) (hf : nextFragment code = none) :
    decodeLoop T step code o buf = (o, buf, ⟨step, buf.read o⟩) := by
  cases step with
  | stepa => exact absurd rfl hstep
  | stepb | stepc | stepd =>
    rw [decodeLoop]
    split
    · rfl
    · next heq =>
      rw [hf] at heq
      cases heq

/-- Inside a group a character completes the partial byte. -/
theorem decodeLoop_some {f : CInt} (hstep : step ≠ .stepa)
    (hf : nextFragment code = some (f, code')) :
    decodeLoop T step code o buf = decodeLoop T (nextStep step) code' (o + 1)
      (buf.storeList o (stored T (buf.read o) f step)) := by
  cases step with
  | stepa => exact absurd rfl hstep
  | stepb | stepc | stepd =>
    conv_lhs => rw [decodeLoop]
    split
    · next heq =>
      rw [hf] at heq
      cases heq
    · next heq =>
      rw [hf, Option.some.injEq, Prod.mk.injEq] at heq
      obtain ⟨rfl, rfl⟩ := heq
      rfl

theorem decodeLoop_stepa_none {p : List Byte × Nat × OutBuf Byte}
    (hp : decodeQuads code o buf = p) (hf : nextFragment p.1 = none) :
    decodeLoop T .stepa code o buf = (p.2.1, p.2.2, base64InitDecodestate) := by
  subst hp
  rw [decodeLoop]
  split
  next heq =>
  rw [heq] at hf ⊢
  split
  · rfl
  · next heq' =>
    rw [hf] at heq'
    cases heq'

theorem decodeLoop_stepa_some {p : List Byte × Nat × OutBuf Byte} {f : CInt}
    (hp : decodeQuads code o buf = p) (hf : nextFragment p.1 = some (f, code')) :
    decodeLoop T .stepa code o buf = decodeLoop T .stepb code' p.2.1
      (p.2.2.storeList p.2.1 (stored T (p.2.2.read p.2.1) f .stepa)) := by
  subst hp
  rw [decodeLoop]
  split
  next heq =>
  rw [heq] at hf ⊢
  split
  · next heq' =>
    rw [hf] at heq'
    cases heq'
  · next heq' =>
    rw [hf, Option.some.injEq, Prod.mk.injEq] at heq'
    obtain ⟨rfl, rfl⟩ := heq'
    rfl

theorem stepa_iff (hq : Carriable q) : (carried q).step = .stepa ↔ q = [] := by
  rw [← List.length_eq_zero_iff]
  rcases hq with hq | hq | hq | hq <;> simp [carried, hq, stepAt]

theorem step_rest (hq : Carriable q) (v : Sextet) :
    (carried (rest 8 (q ++ ofDigit v))).step = nextStep (carried q).step := by
  rcases hq with hq | hq | hq | hq <;>
    simp [carried, length_rest, hq, stepAt, nextStep]

/-- **The masks and shifts of a label** put the carried bits and the character's together. -/
theorem stored_carried (hq : Carriable q) (v : Sextet) :
    stored T (digit 8 q) (v.setWidth 32) (carried q).step = padded 8 (q ++ ofDigit v) := by
  have hdrop : (q ++ ofDigit v).drop 8 = (ofDigit v).drop (8 - q.length) := by
    rw [List.drop_append, List.drop_of_length_le (Nat.le_of_lt hq.length_lt), List.nil_append]
  have hhigh : ∀ k < 6, padded 8 ((ofDigit v).drop k) = [digit 8 ((ofDigit v).drop k)] := by
    intro k hk
    refine padded_of_lt ?_ (List.ne_nil_of_length_pos ?_)
    · rw [List.length_drop, length_ofDigit]
      omega
    · rw [List.length_drop, length_ofDigit]
      omega
  rcases hq with hq | hq | hq | hq
  · obtain rfl : q = [] := List.length_eq_zero_iff.mp hq
    exact (congrArg (fun b => [b]) (stepa_high v)).trans (hhigh 0 (by omega)).symm
  all_goals rw [padded_of_le (by omega) (by simp [hq]), hdrop, hq]
  · rw [List.drop_of_length_le (by simp), padded_nil, ← stepd_low (T := T) v hq]
    simp [carried, hq, stepAt, stored]
  · rw [hhigh 4 (by omega), ← stepc_low (T := T) v hq, ← stepc_high]
    simp [carried, hq, stepAt, stored]
  · rw [hhigh 2 (by omega), ← stepb_low (T := T) v hq, ← stepb_high]
    simp [carried, hq, stepAt, stored]

/-- Inside a group a character completes the byte under construction and starts the next one. -/
theorem decodeLoop_char (hq : Carriable q) (hne : q ≠ []) (hread : buf.read o = digit 8 q)
    (hf : nextFragment code = some (v.setWidth 32, code')) :
    decodeLoop T (carried q).step code o buf =
      decodeLoop T (carried (rest 8 (q ++ ofDigit v))).step code'
        (o + (q ++ ofDigit v).length / 8) (buf.storeList o (padded 8 (q ++ ofDigit v))) := by
  have hone : (q ++ ofDigit v).length / 8 = 1 := by
    have hpos : 0 < q.length := List.length_pos_iff.mpr hne
    unfold Carriable at hq
    rw [List.length_append, length_ofDigit]
    omega
  rw [decodeLoop_some (mt (stepa_iff hq).mp hne) hf, hread, stored_carried hq, step_rest hq, hone]

theorem decodeLoop_first_char {p : List Byte × Nat × OutBuf Byte}
    (hp : decodeQuads code o buf = p) (hf : nextFragment p.1 = some (v.setWidth 32, code')) :
    decodeLoop T .stepa code o buf =
      decodeLoop T (carried (rest 8 ([] ++ ofDigit v))).step code'
        (p.2.1 + ([] ++ ofDigit v).length / 8)
        (p.2.2.storeList p.2.1 (padded 8 ([] ++ ofDigit v))) := by
  have hnil : Carriable [] := .inl rfl
  have hzero : ([] ++ ofDigit v).length / 8 = 0 := by simp
  rw [decodeLoop_stepa_some hp hf, step_rest hnil, ← stored_carried (T := T) hnil, hzero]
  rfl

end Loop

/-- Decoding `code` from a state that carries `q`: the loop ends with the output described by
`Decoded` and the state that carries the bits left over. -/
def LoopSpec (q : List Bool) (code : List Byte) (o : Nat) (buf : OutBuf Byte)
    (r : Nat × OutBuf Byte × Base64DecodeState) : Prop :=
  Decoded q code o buf r.1 r.2.1 ∧ r.2.2 = carried (rest 8 (q ++ bits code))

theorem LoopSpec.after {q : List Bool} {code code' : List Byte} {o o' : Nat}
    {buf buf' : OutBuf Byte} {r : Nat × OutBuf Byte × Base64DecodeState}
    (h : Decoded q code o buf o' buf')
    (h' : LoopSpec (rest 8 (q ++ bits code)) code' o' buf' r) :
    LoopSpec q (code ++ code') o buf r := by
  refine ⟨h.trans h'.1, ?_⟩
  rw [h'.2, bits_append, ← List.append_assoc, ← rest_append (by omega)]

/-- **The loop of `base64_decode_block_scalar`**, entered with the partial byte in place. -/
theorem decodeLoop_spec (T : Target) {q : List Bool} (hq : Carriable q) (code : List Byte)
    (o : Nat) (buf : OutBuf Byte) (hread : q ≠ [] → buf.read o = digit 8 q) :
    LoopSpec q code o buf (decodeLoop T (carried q).step code o buf) := by
  induction hn : code.length using Nat.strongRecOn generalizing q code o buf with
  | _ n ih =>
    -- a character was read: the stretch up to it, then the rest by induction
    have hchar : ∀ {q : List Bool} {skipped : List Byte} {c : Byte} {v : Sextet}
        {code' : List Byte} (o : Nat) (buf : OutBuf Byte), Carriable q → sextets skipped = [] →
        value c = some v → code'.length < n →
        LoopSpec q (skipped ++ c :: code') o buf
          (decodeLoop T (carried (rest 8 (q ++ ofDigit v))).step code'
            (o + (q ++ ofDigit v).length / 8) (buf.storeList o (padded 8 (q ++ ofDigit v)))) := by
      intro q skipped c v code' o buf hq hs hc hlt
      have hbits := bits_char hs hc
      have hfirst := Decoded.storeList q (skipped ++ [c]) o buf
      have hq' := hq.rest (skipped ++ [c])
      rw [hbits] at hfirst hq'
      have hloop := ih _ hlt hq' code' _ _ (read_storeList_padded buf o) rfl
      rw [← hbits] at hloop hfirst ⊢
      simpa using LoopSpec.after hfirst hloop
    by_cases hne : q = []
    · subst hne
      obtain ⟨vs, hcode, hdvd, hout⟩ := decodeQuads_spec code o buf
      obtain ⟨hquads, hnil⟩ := Decoded.quads hdvd o buf
      have hle := decodeQuads_length_le code o buf
      generalize hp : decodeQuads code o buf = p at hcode hout hle
      have hafter : LoopSpec [] p.1 p.2.1 p.2.2 (decodeLoop T .stepa code o buf) := by
        rcases nextFragment_spec p.1 with ⟨hf, hs⟩ | ⟨skipped, c, v, code', hsplit, hs, hc, hf⟩
        · rw [decodeLoop_stepa_none hp hf]
          refine ⟨Decoded.refl (by simp) hs, ?_⟩
          rw [bits, hs, ← carried_nil]
          simp [rest_of_lt]
        · rw [decodeLoop_first_char hp hf, hsplit]
          exact hchar p.2.1 p.2.2 hq hs hc (by simp [hsplit] at hle; omega)
      rw [hout] at hafter
      rw [← hnil] at hafter
      have hall := LoopSpec.after hquads hafter
      rw [← hcode] at hall
      exact hall
    · have hread := hread hne
      rcases nextFragment_spec code with ⟨hf, hs⟩ | ⟨skipped, c, v, code', rfl, hs, hc, hf⟩
      · rw [decodeLoop_none (mt (stepa_iff hq).mp hne) hf, hread]
        have hlt : q.length < 8 := hq.length_lt
        refine ⟨Decoded.refl hlt hs, ?_⟩
        rw [bits, hs, ofDigits_nil, List.append_nil, rest_of_lt hlt]
        rfl
      · rw [decodeLoop_char hq hne hread hf]
        exact hchar o buf hq hs hc (by simp at hn; omega)

/-! ## The block functions -/

/-- What a call does with `code` from a state that carries `q`. -/
structure BlockSpec (q : List Bool) (code : List Byte) (o : Nat) (buf : OutBuf Byte)
    (r : Base64DecodeResult) : Prop where
  decoded : Decoded q code o buf (o + r.returned) r.plaintextOut
  state : r.state = carried (rest 8 (q ++ bits code))
  nothing : code = [] → r.plaintextOut = buf

section Block

variable {q : List Bool}

/-- **`base64_decode_block_scalar`**: the copy of the partial byte opens the stretch. -/
theorem base64DecodeBlockScalar_spec (T : Target) (hq : Carriable q) (code : List Byte) (o : Nat)
    (buf : OutBuf Byte) :
    BlockSpec q code o buf (base64DecodeBlockScalar T code o buf (carried q)) := by
  have hlt : q.length < 8 := hq.length_lt
  rw [base64DecodeBlockScalar]
  by_cases hcode : code.length = 0
  · rw [if_pos hcode, List.length_eq_zero_iff.mp hcode]
    exact ⟨Decoded.refl hlt rfl, by simp [rest_of_lt hlt], fun _ => rfl⟩
  rw [if_neg hcode]
  obtain ⟨hdec, hstate⟩ := decodeLoop_spec T hq code o (buf.store o (carried q).plainchar)
    fun _ => OutBuf.read_store_self ..
  have hpos := hdec.position
  refine ⟨⟨?_, hdec.bytes, ?_, ?_⟩, hstate, fun hnil => absurd (by simp [hnil]) hcode⟩
  · dsimp only
    omega
  · intro j hj
    rw [hdec.below j hj, OutBuf.read_store_of_ne _ _ (by omega)]
  · intro j hj
    rcases hdec.stores j hj with hj | hj
    · rw [OutBuf.stores_store, List.mem_cons] at hj
      rcases hj with rfl | hj
      · right
        omega
      · exact .inl hj
    · exact .inr hj

theorem take_consumed (simd : Base64DecodeBulkSimd) (p : List Byte) :
    ∃ vs : List Sextet, p.take (simd.consumed p) = vs.map symbol ∧
      vs.length = simd.consumed p ∧ simd.dst p = groups 8 (ofDigits vs) := by
  have hsym := map_symbol_sextets (simd.clean p)
  have hlen := congrArg List.length hsym
  rw [List.length_map, List.length_take_of_le (simd.consumed_le p)] at hlen
  exact ⟨_, hsym.symm, hlen, simd.dst_eq p⟩

/-- **The dispatching loop**: bulk and scalar stretches one after another. -/
theorem dispatchLoop_spec (T : Target) (simd : Base64DecodeBulkSimd) (hq : Carriable q)
    (p : List Byte) (o : Nat) (buf : OutBuf Byte) :
    LoopSpec q p o buf (dispatchLoop T simd p o buf (carried q)) := by
  induction hn : p.length using Nat.strongRecOn generalizing q p o buf with
  | _ n ih =>
    rw [dispatchLoop]
    by_cases hrem : p.length = 0
    · have hlt : q.length < 8 := hq.length_lt
      rw [dif_pos hrem, List.length_eq_zero_iff.mp hrem]
      exact ⟨Decoded.refl hlt rfl, by simp [rest_of_lt hlt]⟩
    rw [dif_neg hrem]
    split
    · next hbulk =>
      obtain ⟨hstep, -, hpos⟩ := hbulk
      have hnil := (stepa_iff hq).mp hstep
      subst hnil
      obtain ⟨vs, htake, hvs, hdst⟩ := take_consumed simd p
      have hdvd : 4 ∣ vs.length := hvs ▸ simd.four_dvd p
      obtain ⟨hquads, hrest⟩ := Decoded.quads hdvd o buf
      rw [← htake, ← hdst, hvs] at hquads
      rw [← htake] at hrest
      have hloop := ih (p.drop (simd.consumed p)).length (by simp; omega) hq
        (p.drop (simd.consumed p)) (o + simd.consumed p / 4 * 3) (buf.storeList o (simd.dst p)) rfl
      have hafter : LoopSpec (rest 8 ([] ++ bits (p.take (simd.consumed p))))
          (p.drop (simd.consumed p)) (o + simd.consumed p / 4 * 3)
          (buf.storeList o (simd.dst p))
          (dispatchLoop T simd (p.drop (simd.consumed p)) (o + simd.consumed p / 4 * 3)
            (buf.storeList o (simd.dst p)) (carried [])) := by
        rw [hrest]
        exact hloop
      have hall := LoopSpec.after hquads hafter
      rwa [List.take_append_drop] at hall
    · dsimp only
      generalize htake :
        (if cleanLength p < p.length then cleanLength p + 1 else cleanLength p) = take
      have hle := cleanLength_le p
      have hblock := base64DecodeBlockScalar_spec T hq (p.take take) o buf
      have hloop := ih (p.drop take).length (by simp; split at htake <;> omega)
        (hq.rest (p.take take)) (p.drop take)
        (o + (base64DecodeBlockScalar T (p.take take) o buf (carried q)).returned)
        (base64DecodeBlockScalar T (p.take take) o buf (carried q)).plaintextOut rfl
      rw [← hblock.state] at hloop
      have hall := LoopSpec.after hblock.decoded hloop
      rwa [List.take_append_drop] at hall

/-- **`base64_decode_block`** meets the same description as the scalar core. -/
theorem base64DecodeBlock_spec (T : Target) (simd : Base64DecodeBulkSimd) (hq : Carriable q)
    (code : List Byte) (o : Nat) (buf : OutBuf Byte) :
    BlockSpec q code o buf (base64DecodeBlock T simd code o buf (carried q)) := by
  obtain ⟨hdec, hstate⟩ := dispatchLoop_spec T simd hq code o buf
  have hpos := hdec.position
  have hret : o + ((dispatchLoop T simd code o buf (carried q)).1 - o) =
      (dispatchLoop T simd code o buf (carried q)).1 := by omega
  refine ⟨?_, hstate, ?_⟩
  · simp only [base64DecodeBlock, hret]
    exact hdec
  · rintro rfl
    rw [base64DecodeBlock, dispatchLoop]
    rfl

end Block

end Libb64
