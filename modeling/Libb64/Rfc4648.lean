import Libb64.Lib.BitString
import Libb64.Target

/-!
# The base64 encoding of RFC 4648, section 4

The purpose of the library, stated on its own: the bytes of a text spell a bit string, its groups
of six bits, the last one filled up with zeros, are written in the 64-character alphabet, and `=`
pads the result to a multiple of four characters. The reading direction looks at alphabet
characters only.
-/

namespace Libb64.Rfc4648

open BitString

/-- Six bits, the value of one character. -/
abbrev Sextet := BitVec 6

def alphabet : List Byte :=
  "ABCDEFGHIJKLMNOPQRSTUVWXYZabcdefghijklmnopqrstuvwxyz0123456789+/".toList.map charCode

def pad : Byte := charCode '='

/-- The alphabet's character for a value. -/
def symbol (s : Sextet) : Byte := alphabet.getD s.toNat 0

/-- The value of a character, if it belongs to the alphabet. -/
def value (c : Byte) : Option Sextet :=
  if charCode 'A' ≤ c ∧ c ≤ charCode 'Z' then some ((c - charCode 'A').setWidth 6)
  else if charCode 'a' ≤ c ∧ c ≤ charCode 'z' then some ((c - charCode 'a' + 26).setWidth 6)
  else if charCode '0' ≤ c ∧ c ≤ charCode '9' then some ((c - charCode '0' + 52).setWidth 6)
  else if c = charCode '+' then some 62
  else if c = charCode '/' then some 63
  else none

def inAlphabet (c : Byte) : Bool := (value c).isSome

/-- The values of the alphabet characters of a text, in order; everything else is skipped. -/
def sextets (t : List Byte) : List Sextet := t.filterMap value

/-- The characters of an encoding before the padding. -/
def symbols (x : List Byte) : List Byte := (padded 6 (ofDigits x)).map symbol

/-- The encoding of a byte string. -/
def encode (x : List Byte) : List Byte :=
  symbols x ++ List.replicate ((4 - (symbols x).length % 4) % 4) pad

/-- The complete bytes of the bit string that a text's alphabet characters spell. -/
def decode (t : List Byte) : List Byte := groups 8 (ofDigits (sextets t))

/-! ## The alphabet -/

theorem value_symbol (s : Sextet) : value (symbol s) = some s := by
  have hall : ∀ s, (value (symbol s) == some s) = true := forall_of_all (by decide +kernel)
  exact eq_of_beq (hall s)

theorem symbol_of_value {c : Byte} {s : Sextet} (h : value c = some s) : symbol s = c := by
  have hall : ∀ c, ((value c).all fun s => symbol s == c) = true :=
    forall_of_all (by decide +kernel)
  have hc := hall c
  rw [h] at hc
  exact eq_of_beq hc

@[simp] theorem inAlphabet_symbol (s : Sextet) : inAlphabet (symbol s) = true := by
  rw [inAlphabet, value_symbol, Option.isSome_some]

@[simp] theorem value_pad : value pad = none := rfl

/-! ## Texts -/

@[simp] theorem sextets_nil : sextets [] = [] := rfl

@[simp] theorem sextets_append (t u : List Byte) : sextets (t ++ u) = sextets t ++ sextets u :=
  List.filterMap_append

theorem sextets_cons_of_some {c : Byte} {s : Sextet} (h : value c = some s) (t : List Byte) :
    sextets (c :: t) = s :: sextets t := by
  simp [sextets, h]

theorem sextets_cons_of_none {c : Byte} (h : value c = none) (t : List Byte) :
    sextets (c :: t) = sextets t := by
  simp [sextets, h]

@[simp] theorem sextets_map_symbol (ss : List Sextet) : sextets (ss.map symbol) = ss := by
  induction ss with
  | nil => rfl
  | cons s ss ih => rw [List.map_cons, sextets_cons_of_some (value_symbol s), ih]

@[simp] theorem sextets_replicate_pad (n : Nat) : sextets (List.replicate n pad) = [] := by
  simp [sextets]

theorem map_symbol_sextets {t : List Byte} (h : ∀ c ∈ t, inAlphabet c = true) :
    (sextets t).map symbol = t := by
  induction t with
  | nil => rfl
  | cons c t ih =>
    obtain ⟨s, hs⟩ := Option.isSome_iff_exists.mp (h c List.mem_cons_self)
    rw [sextets_cons_of_some hs, List.map_cons, symbol_of_value hs,
      ih fun d hd => h d (List.mem_cons_of_mem c hd)]

/-- Only the alphabet characters of a text matter to its values. -/
theorem sextets_filter (t : List Byte) : sextets (t.filter inAlphabet) = sextets t := by
  induction t with
  | nil => rfl
  | cons c t ih =>
    cases h : value c with
    | none =>
      rw [List.filter_cons_of_neg (by simp [inAlphabet, h]), ih, sextets_cons_of_none h]
    | some s =>
      rw [List.filter_cons_of_pos (by simp [inAlphabet, h]), sextets_cons_of_some h, ih,
        sextets_cons_of_some h]

theorem length_sextets (t : List Byte) : (sextets t).length = t.countP inAlphabet :=
  List.length_filterMap_eq_countP

@[simp] theorem encode_nil : encode [] = [] := by
  simp [encode, symbols, padded, groups_of_lt, rest_of_lt]

@[simp] theorem decode_nil : decode [] = [] := by
  simp [decode, groups_of_lt]

theorem sextets_encode (x : List Byte) : sextets (encode x) = padded 6 (ofDigits x) := by
  simp [encode, symbols]

theorem length_symbols (x : List Byte) : (symbols x).length = (8 * x.length + 5) / 6 := by
  rw [symbols, List.length_map, length_padded (by decide), length_ofDigits]

theorem length_encode (x : List Byte) : (encode x).length = 4 * ((x.length + 2) / 3) := by
  rw [encode, List.length_append, List.length_replicate, length_symbols]
  omega

/-- **Decoding an encoding gives the bytes back.** -/
theorem decode_encode (x : List Byte) : decode (encode x) = x := by
  rw [decode, sextets_encode, groups_ofDigits_padded (by decide) (by decide)]

theorem encode_append {x : List Byte} (h : 3 ∣ x.length) (y : List Byte) :
    encode (x ++ y) = encode x ++ encode y := by
  have hrest : rest 6 (ofDigits x) = [] := by
    rw [← List.length_eq_zero_iff, length_rest, length_ofDigits]
    omega
  have hsym : symbols (x ++ y) = symbols x ++ symbols y := by
    rw [symbols, ofDigits_append, padded_append (by decide) hrest, List.map_append]
    rfl
  have hfour : (symbols x).length % 4 = 0 := by
    rw [length_symbols]
    omega
  simp only [encode, hsym, List.length_append, List.append_assoc]
  rw [show (4 - (symbols x).length % 4) % 4 = 0 by omega,
    show ((symbols x).length + (symbols y).length) % 4 = (symbols y).length % 4 by omega]
  simp

end Libb64.Rfc4648
