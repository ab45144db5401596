import Libb64.Verify.EncodeRefine
import Libb64.Verify.DecodeOutput
import Libb64.Lib.BulkLoop
import Libb64.Lib.Lanes

/-!
# Kernels and the scalar core

What the bulk kernels have in common, whatever their instructions: a block of the source is rows of
three bytes or of four characters, a pass that stores the encoding or decoding of its block makes a
loop that stores the encoding or decoding of all it consumed, and that is what the scalar core
writes for the same input.
-/

namespace Libb64

open BitString Rfc4648

variable {T : Target}

/-! ## Blocks in rows -/

theorem take_drop_eq_map (src : List Byte) {s k : Nat} (h : s + k ≤ src.length) :
    (src.drop s).take k = (List.range k).map fun i => src.getD (s + i) 0 := by
  apply List.ext_getElem
  · rw [List.length_take_of_le (by rw [List.length_drop]; omega)]
    simp
  · intro i hi hi'
    have hlt : s + i < src.length := by
      simp at hi'
      omega
    simp [List.getElem?_eq_getElem hlt]

theorem take_drop_eq_rows (src : List Byte) {s k m : Nat} (h : s + k * m ≤ src.length) :
    (src.drop s).take (k * m) =
      (List.range m).flatMap fun i => (List.range k).map fun j => src.getD (s + (k * i + j)) 0 := by
  rw [take_drop_eq_map src h, Lanes.range_mul, List.map_flatMap]
  simp [Function.comp_def]

theorem length_flatMap_rows {α : Type} (rows : Nat → List α) {k : Nat}
    (h : ∀ i, (rows i).length = k) (m : Nat) :
    ((List.range m).flatMap rows).length = k * m := by
  induction m with
  | zero => rfl
  | succ m ih =>
    rw [List.range_succ, List.flatMap_append, List.length_append, ih, List.flatMap_singleton, h,
      Nat.mul_succ]

theorem encode_rows (rows : Nat → List Byte) (h : ∀ i, (rows i).length = 3) (m : Nat) :
    encode ((List.range m).flatMap rows) = (List.range m).flatMap fun i => encode (rows i) := by
  induction m with
  | zero => exact encode_nil
  | succ m ih =>
    have hdvd : 3 ∣ ((List.range m).flatMap rows).length :=
      ⟨m, length_flatMap_rows rows h m⟩
    rw [List.range_succ, List.flatMap_append, encode_append hdvd, ih, List.flatMap_append,
      List.flatMap_singleton, List.flatMap_singleton]

theorem length_sextets_of_clean {x : List Byte} (h : ∀ c ∈ x, inAlphabet c = true) :
    (sextets x).length = x.length := by
  have hmap := congrArg List.length (map_symbol_sextets h)
  rwa [List.length_map] at hmap

theorem rest_bits_of_clean {x : List Byte} (hx : 4 ∣ x.length)
    (h : ∀ c ∈ x, inAlphabet c = true) : rest 8 (bits x) = [] := by
  rw [← List.length_eq_zero_iff, length_rest, length_bits, length_sextets_of_clean h]
  omega

theorem decode_append {x : List Byte} (hx : 4 ∣ x.length) (h : ∀ c ∈ x, inAlphabet c = true)
    (y : List Byte) : decode (x ++ y) = decode x ++ decode y := by
  have hrest := rest_bits_of_clean hx h
  rw [decode, sextets_append, ofDigits_append]
  exact groups_append_of_rest_eq_nil (by decide) hrest _

theorem length_decode_of_clean {x : List Byte} (hx : 4 ∣ x.length)
    (h : ∀ c ∈ x, inAlphabet c = true) : (decode x).length = x.length / 4 * 3 := by
  rw [decode, length_groups, length_ofDigits, length_sextets_of_clean h]
  omega

theorem decode_rows (rows : Nat → List Byte) (h : ∀ i, (rows i).length = 4) (m : Nat)
    (hclean : ∀ i < m, ∀ c ∈ rows i, inAlphabet c = true) :
    decode ((List.range m).flatMap rows) = (List.range m).flatMap fun i => decode (rows i) := by
  induction m with
  | zero => exact decode_nil
  | succ m ih =>
    have hdvd : 4 ∣ ((List.range m).flatMap rows).length :=
      ⟨m, length_flatMap_rows rows h m⟩
    have hfront : ∀ c ∈ (List.range m).flatMap rows, inAlphabet c = true := by
      intro c hc
      obtain ⟨i, hi, hc⟩ := List.mem_flatMap.mp hc
      exact hclean i (Nat.lt_succ_of_lt (List.mem_range.mp hi)) c hc
    rw [List.range_succ, List.flatMap_append, decode_append hdvd hfront,
      ih fun i hi => hclean i (Nat.lt_succ_of_lt hi), List.flatMap_append,
      List.flatMap_singleton, List.flatMap_singleton]

/-! ## The scalar core on whole groups -/

/-- From `step_A` and without line breaks, the scalar core writes the encoding of whole triples. -/
theorem scalar_codeOut (s : Base64EncodeState T) {xs : List Byte} (hxs : 3 ∣ xs.length) :
    (base64EncodeBlockScalar xs { s with step := .stepA, charsPerLine := 0 }).codeOut =
      encode xs := by
  obtain ⟨-, hcode, -⟩ := base64EncodeBlockScalar_spec
    (Same.refl { s with step := .stepA, charsPerLine := 0 }) xs
  exact hcode.trans (slowEncoder_triples rfl rfl hxs).2

/-- From `step_a`, the scalar core writes the bytes of whole clean quads. -/
theorem scalar_plaintextOut (T : Target) {x : List Byte} (hx : 4 ∣ x.length)
    (h : ∀ c ∈ x, inAlphabet c = true) (o : Nat) (buf : OutBuf Byte) :
    let r := base64DecodeBlockScalar T x o buf base64InitDecodestate
    r.returned = x.length / 4 * 3 ∧ r.plaintextOut.slice o r.returned = decode x := by
  have hnil : Carriable [] := .inl rfl
  obtain ⟨hret, hout⟩ := (base64DecodeBlockScalar_spec T hnil x o buf).output
  rw [carried_nil, List.nil_append] at hret hout
  refine ⟨?_, hout⟩
  rw [hret, ← length_decode_of_clean hx h, decode, length_groups]
  rfl

theorem inAlphabet_iff (c : Byte) : inAlphabet c = true ↔ (base64DecodeValue c).slt 0 = false := by
  rw [(base64DecodeValue_eq c).1, inAlphabet]
  cases value c <;> simp

/-! ## Encode kernels -/

/-- What an encode kernel leaves behind that was given all of `src` and consumed `n` bytes: it did
not fault, it stored the encoding of these bytes and nothing else, and that is what the scalar core
writes for them. -/
structure BulkEncoded (src : List Byte) (buf : OutBuf Byte) (n : Nat)
    (r : Option (Nat × OutBuf Byte)) : Prop where
  result : r = some (n, buf.storeList 0 (encode (src.take n)))
  le : n ≤ src.length
  three_dvd : 3 ∣ n
  length : (encode (src.take n)).length = n / 3 * 4
  scalar : ∀ (T : Target) (s : Base64EncodeState T),
    (base64EncodeBlockScalar (src.take n) { s with step := .stepA, charsPerLine := 0 }).codeOut =
      encode (src.take n)

theorem encode_computes (loop : BulkLoop Byte Byte) (hdvd : 3 ∣ loop.step)
    (hstride : loop.stride = loop.step / 3 * 4)
    (hpass : ∀ (src : List Byte) (s d : Nat) (buf : OutBuf Byte), s + loop.width ≤ src.length →
      loop.stride ∣ d →
      loop.body src s d buf = .next (buf.storeList d (encode ((src.drop s).take loop.step)))) :
    loop.Computes (fun _ => True) encode where
  next src s d buf hin hd _ := hpass src s d buf hin hd
  leave _ _ _ _ _ hdirty := absurd (fun _ _ => trivial) hdirty
  nil := encode_nil
  length x hx _ := by
    rw [length_encode, hx, hstride]
    omega
  append x y hx _ := encode_append (Nat.dvd_trans hdvd hx) y

/-- **A whole run of an encode kernel.** -/
theorem encode_run {loop : BulkLoop Byte Byte} (hdvd : 3 ∣ loop.step)
    (h : loop.Computes (fun _ => True) encode) (src : List Byte) (buf : OutBuf Byte) :
    BulkEncoded src buf
      (loop.step * ((src.length - (loop.width - loop.step)) / loop.step))
      (loop.run src src.length 0 0 buf) := by
  obtain ⟨n, hrun, hstops⟩ := BulkLoop.run_spec h src buf
  have hthree : 3 ∣ n := Nat.dvd_trans hdvd hstops.dvd
  have htake : (src.take n).length = n := List.length_take_of_le hstops.le
  rw [← hstops.eq_of_forall fun _ => trivial]
  refine ⟨hrun, hstops.le, hthree, ?_, ?_⟩
  · rw [length_encode, htake]
    omega
  · intro T s
    exact scalar_codeOut s (by rwa [htake])

/-! ## Decode kernels -/

/-- What a decode kernel with blocks of `width` characters leaves behind that was given all of
`src`: it consumed all whole blocks up to the first character outside the alphabet of the scalar
table, it did not fault, and it stored the bytes that the scalar core yields for them and nothing
else. -/
structure BulkDecoded (width : Nat) (src : List Byte) (buf : OutBuf Byte) (n : Nat)
    (r : Option (Nat × OutBuf Byte)) : Prop where
  result : r = some (n, buf.storeList 0 (decode (src.take n)))
  isGreatest : IsGreatest {m | width ∣ m ∧ m ≤ src.length ∧
    ∀ c ∈ src.take m, (base64DecodeValue c).slt 0 = false} n
  length : (decode (src.take n)).length = n / 4 * 3
  scalar : ∀ (T : Target) (o : Nat) (buf' : OutBuf Byte),
    let s := base64DecodeBlockScalar T (src.take n) o buf' base64InitDecodestate
    s.returned = n / 4 * 3 ∧ s.plaintextOut.slice o s.returned = decode (src.take n)

theorem decode_computes (loop : BulkLoop Byte Byte) (hdvd : 4 ∣ loop.step)
    (hstride : loop.stride = loop.step / 4 * 3)
    (hnext : ∀ (src : List Byte) (s d : Nat) (buf : OutBuf Byte), s + loop.width ≤ src.length →
      (∀ c ∈ (src.drop s).take loop.step, inAlphabet c = true) →
      loop.body src s d buf = .next (buf.storeList d (decode ((src.drop s).take loop.step))))
    (hleave : ∀ (src : List Byte) (s d : Nat) (buf : OutBuf Byte), s + loop.width ≤ src.length →
      ¬(∀ c ∈ (src.drop s).take loop.step, inAlphabet c = true) →
      loop.body src s d buf = .leave) :
    loop.Computes (fun c => inAlphabet c = true) decode where
  next src s d buf hin _ hclean := hnext src s d buf hin hclean
  leave := hleave
  nil := decode_nil
  length x hx hclean := by
    rw [length_decode_of_clean (hx ▸ hdvd) hclean, hx, hstride]
  append x y hx hclean := decode_append (Nat.dvd_trans hdvd hx) hclean y

/-- **A whole run of a decode kernel** that reads no further than it advances. -/
theorem decode_run {loop : BulkLoop Byte Byte} (hdvd : 4 ∣ loop.step)
    (hwidth : loop.width = loop.step)
    (h : loop.Computes (fun c => inAlphabet c = true) decode) (src : List Byte)
    (buf : OutBuf Byte) :
    ∃ n, BulkDecoded loop.step src buf n (loop.run src src.length 0 0 buf) := by
  obtain ⟨n, hrun, hstops⟩ := BulkLoop.run_spec h src buf
  have hfour : 4 ∣ n := Nat.dvd_trans hdvd hstops.dvd
  have htake : (src.take n).length = n := List.length_take_of_le hstops.le
  have hgreatest := hstops.isGreatest hwidth
  simp only [inAlphabet_iff] at hgreatest
  refine ⟨n, hrun, hgreatest, ?_, ?_⟩
  · rw [length_decode_of_clean (by rwa [htake]) hstops.all_clean, htake]
  · intro T o buf'
    have hscalar := scalar_plaintextOut T (by rwa [htake]) hstops.all_clean o buf'
    rwa [htake] at hscalar

end Libb64
