import Libb64.Verify.DecodeOutput
import Libb64.Verify.EncodeOutput

/-!
# The round trips

Decoding what was encoded gives the bytes back, whatever the cuts on both sides and whatever was
inserted or deleted outside the alphabet in between (`decodeCalls_encodeSession`). Encoding what
was decoded gives a text back exactly if it is canonical (`encode_decode_eq_iff_canonical`).
-/

namespace Libb64

open BitString Rfc4648 Lines

variable {T : Target}

theorem sextets_layout (c : Nat) (t : List Byte) : sextets (layout newline c t) = sextets t :=
  layout_filterMap newline_not_alphabet c t

/-- **Round trip**: any text with the alphabet characters of an encoder's output decodes to the
bytes that were encoded. -/
theorem decodeCalls_encodeSession (T : Target) (c : T.SizeT) (encodes : List EncodeCall)
    (decodes : List DecodeCall)
    (h : (codeOf decodes).filter inAlphabet = (encodeSession c encodes).filter inAlphabet) :
    ((decodeCalls T).run base64InitDecodestate decodes).2 = plaintextOf encodes := by
  have hs : sextets (codeOf decodes) = sextets (encode (plaintextOf encodes)) := by
    rw [← sextets_filter, h, sextets_filter, encodeSession_eq, sextets_layout]
  calc ((decodeCalls T).run base64InitDecodestate decodes).2
      = decode (codeOf decodes) := by rw [decodeCalls_run]
    _ = decode (encode (plaintextOf encodes)) := by rw [decode, hs, ← decode]
    _ = plaintextOf encodes := decode_encode _

/-- The text `Zm9v`, cut in the middle and with other characters put in, decodes to `foo`. -/
theorem decodeCalls_encodeSession_foo :
    ((decodeCalls x86_64).run base64InitDecodestate
      [⟨some decodeSimdNone, "Z-m".toList.map charCode, fun _ => 0⟩,
        ⟨none, "==9\nv".toList.map charCode, fun _ => 255⟩]).2 =
      plaintextOf [⟨encodeSimdNone, "fo".toList.map charCode⟩,
        ⟨encodeSimdNone, "o".toList.map charCode⟩] :=
  decodeCalls_encodeSession x86_64 4 [⟨encodeSimdNone, "fo".toList.map charCode⟩,
    ⟨encodeSimdNone, "o".toList.map charCode⟩] _ (by decide +kernel)

/-! ## Canonical texts -/

/-- Groups of four with at most two padding characters at the end, zeros in the bits before the
padding that no byte uses, and exactly the newlines of lines of `c` characters. -/
structure IsCanonical (c : Nat) (s body : List Byte) (k : Nat) : Prop where
  inAlphabet : ∀ b ∈ body, inAlphabet b = true
  padding : k ≤ 2
  groups : 4 ∣ body.length + k
  lowBits : ∀ v ∈ (sextets body).getLast?, v.toNat % 4 ^ k = 0
  newlines : s = layout newline c (body ++ List.replicate k pad)

def Canonical (c : Nat) (s : List Byte) : Prop := ∃ body k, IsCanonical c s body k

theorem lowBits_iff (v : Sextet) {k : Nat} (hk : k ≤ 2) :
    (ofDigit v).drop (6 - 2 * k) = List.replicate (2 * k) false ↔ v.toNat % 4 ^ k = 0 := by
  have hall : ∀ v : Sextet, ((List.range 3).all fun k =>
      decide ((ofDigit v).drop (6 - 2 * k) = List.replicate (2 * k) false) ==
        decide (v.toNat % 4 ^ k = 0)) = true :=
    forall_of_all (by decide +kernel)
  have hv := List.all_eq_true.mp (hall v) k (List.mem_range.mpr (by omega))
  simpa using hv

/-- The bits left over by a text of the right length are the low bits of its last character. -/
theorem rest_eq_zeros_iff {ss : List Sextet} {k : Nat} (hk : k ≤ 2) (h : 4 ∣ ss.length + k) :
    rest 8 (ofDigits ss) = List.replicate (2 * k) false ↔
      ∀ v ∈ ss.getLast?, v.toNat % 4 ^ k = 0 := by
  rcases List.eq_nil_or_concat ss with rfl | ⟨front, v, rfl⟩
  · have hk0 : k = 0 := by
      simp at h
      omega
    subst hk0
    simp [rest_of_lt]
  · rw [List.concat_eq_append] at h ⊢
    have hcut : 8 * ((ofDigits (front ++ [v])).length / 8) = 6 * front.length + (6 - 2 * k) := by
      simp only [length_ofDigits, List.length_append, List.length_singleton] at h ⊢
      omega
    have hrest : rest 8 (ofDigits (front ++ [v])) = (ofDigit v).drop (6 - 2 * k) := by
      rw [rest, hcut, ofDigits_append, ← List.drop_drop, List.drop_left' (by simp)]
      simp
    rw [hrest, lowBits_iff v hk]
    simp

theorem canonical_layout_encode (c : Nat) (x : List Byte) :
    Canonical c (layout newline c (encode x)) := by
  have hlen := length_symbols x
  have hsextets : sextets (symbols x) = padded 6 (ofDigits x) := sextets_map_symbol _
  have hpadded : (padded 6 (ofDigits x)).length = (symbols x).length :=
    (List.length_map _).symm
  refine ⟨symbols x, (4 - (symbols x).length % 4) % 4, ?_, ?_, ?_, ?_, rfl⟩
  · intro b hb
    obtain ⟨v, -, rfl⟩ := List.mem_map.mp hb
    exact inAlphabet_symbol v
  · omega
  · omega
  · rw [hsextets, ← rest_eq_zeros_iff (by omega) (by omega)]
    obtain ⟨j, hj, hrest⟩ := rest_ofDigits_padded (w := 6) (by omega) (by omega) x
    have hcount := congrArg List.length hrest
    rw [length_rest, length_ofDigits, List.length_replicate, hpadded] at hcount
    rw [hrest]
    congr 1
    omega

theorem Canonical.eq_layout_encode {c : Nat} {s : List Byte} (h : Canonical c s) :
    s = layout newline c (encode (decode s)) := by
  obtain ⟨body, k, halpha, hk, hfour, hlow, hs⟩ := h
  have hbody := map_symbol_sextets halpha
  have hlen : (sextets body).length = body.length := by
    rw [← List.length_map (f := symbol), hbody]
  have hsextets : sextets s = sextets body := by
    rw [hs, sextets_layout, sextets_append, sextets_replicate_pad, List.append_nil]
  have hzeros := (rest_eq_zeros_iff hk (by rwa [hlen])).mpr hlow
  have hpadded : padded 6 (ofDigits (decode s)) = sextets body := by
    rw [decode, hsextets]
    exact padded_ofDigits_groups (by omega) (by omega) (by omega) hzeros
  have hpads : (4 - body.length % 4) % 4 = k := by omega
  conv_lhs => rw [hs]
  rw [encode, symbols, hpadded, hbody, hpads]

/-- **The exact image of the encoder**: encoding what the decoder makes of a text gives the text
back if and only if the text is canonical. -/
theorem encode_decode_eq_iff_canonical (T : Target) (c : T.SizeT) (s : List Byte)
    (encodeSimd : Base64EncodeBulkSimd) (decodeSimd : Base64DecodeBulkSimd)
    (contents : Nat → Byte) :
    let r := base64DecodeBlock T decodeSimd s 0 (.fresh contents) base64InitDecodestate
    encodeSession c [⟨encodeSimd, r.plaintextOut.slice 0 r.returned⟩] = s ↔
      Canonical c.toNat s := by
  have hspec := base64DecodeBlock_spec T decodeSimd (q := []) (.inl rfl) s 0 (.fresh contents)
  rw [carried_nil] at hspec
  intro r
  have hout : r.plaintextOut.slice 0 r.returned = decode s := hspec.output.2
  have hplain : ∀ x, plaintextOf [⟨encodeSimd, x⟩] = x := fun x => by simp [plaintextOf]
  rw [encodeSession_eq, hout, hplain]
  constructor
  · intro h
    rw [← h]
    exact canonical_layout_encode c.toNat _
  · intro h
    exact h.eq_layout_encode.symm

end Libb64
