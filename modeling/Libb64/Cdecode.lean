import Libb64.Lib.OutBuf
import Libb64.CdecodeSwarTable
import Libb64.Internal

/-!
# The decoder, `cdecode.c`

The block decoder is a coroutine over the four characters of a group. It builds each output byte in
place: a character stores the high bits of a byte, the next one reads the byte back and adds the
low bits, and a call that ends in between saves the partial byte in the state. Output buffers are
therefore modelled as memory, with whatever the caller left in them.
-/

namespace Libb64

inductive Base64DecodeStep where
  | stepa
  | stepb
  | stepc
  | stepd
deriving DecidableEq, Repr

structure Base64DecodeState where
  step : Base64DecodeStep
  plainchar : Byte
deriving DecidableEq, Repr

/-- What a call leaves behind: the state, the output buffer and the value it returned. -/
structure Base64DecodeResult where
  state : Base64DecodeState
  plaintextOut : OutBuf Byte
  returned : Nat

/-- `decoding`: the value of a byte, -2 for the padding character, -1 for every other byte outside
the alphabet. -/
def decoding : List Byte := [
  -1, -1, -1, -1, -1, -1, -1, -1, -1, -1, -1, -1, -1, -1, -1, -1,
  -1, -1, -1, -1, -1, -1, -1, -1, -1, -1, -1, -1, -1, -1, -1, -1,
  -1, -1, -1, -1, -1, -1, -1, -1, -1, -1, -1, 62, -1, -1, -1, 63,
  52, 53, 54, 55, 56, 57, 58, 59, 60, 61, -1, -1, -1, -2, -1, -1,
  -1, 0, 1, 2, 3, 4, 5, 6, 7, 8, 9, 10, 11, 12, 13, 14,
  15, 16, 17, 18, 19, 20, 21, 22, 23, 24, 25, -1, -1, -1, -1, -1,
  -1, 26, 27, 28, 29, 30, 31, 32, 33, 34, 35, 36, 37, 38, 39, 40,
  41, 42, 43, 44, 45, 46, 47, 48, 49, 50, 51, -1, -1, -1, -1, -1,
  -1, -1, -1, -1, -1, -1, -1, -1, -1, -1, -1, -1, -1, -1, -1, -1,
  -1, -1, -1, -1, -1, -1, -1, -1, -1, -1, -1, -1, -1, -1, -1, -1,
  -1, -1, -1, -1, -1, -1, -1, -1, -1, -1, -1, -1, -1, -1, -1, -1,
  -1, -1, -1, -1, -1, -1, -1, -1, -1, -1, -1, -1, -1, -1, -1, -1,
  -1, -1, -1, -1, -1, -1, -1, -1, -1, -1, -1, -1, -1, -1, -1, -1,
  -1, -1, -1, -1, -1, -1, -1, -1, -1, -1, -1, -1, -1, -1, -1, -1,
  -1, -1, -1, -1, -1, -1, -1, -1, -1, -1, -1, -1, -1, -1, -1, -1,
  -1, -1, -1, -1, -1, -1, -1, -1, -1, -1, -1, -1, -1, -1, -1, -1]

def base64DecodeMaxlength {T : Target} (encodeLen : T.SizeT) : T.SizeT :=
  encodeLen / 4 * 3 + 3

/-- `base64_decode_value`; the `signed char` entry is widened to `int`. -/
def base64DecodeValue (valueIn : Byte) : CInt :=
  (decoding.getD valueIn.toNat 0).signExtend 32

def base64InitDecodestate : Base64DecodeState where
  step := .stepa
  plainchar := 0

/-! ## The scalar core -/

/-- The quad loop: it stores three bytes for each clean quad and stops before the first other one.
Yields the characters left, the output position and the buffer. -/
def decodeQuads : List Byte → Nat → OutBuf Byte → List Byte × Nat × OutBuf Byte
  | code0 :: code1 :: code2 :: code3 :: codechar, plainchar, buf =>
    let out := b64Dec0.getD code0.toNat 0 ||| b64Dec1.getD code1.toNat 0 |||
      b64Dec2.getD code2.toNat 0 ||| b64Dec3.getD code3.toNat 0
    if out >>> 24 ≠ 0 then
      (code0 :: code1 :: code2 :: code3 :: codechar, plainchar, buf)
    else
      decodeQuads codechar (plainchar + 3)
        (((buf.store plainchar ((out >>> 16).setWidth 8)).store (plainchar + 1)
          ((out >>> 8).setWidth 8)).store (plainchar + 2) (out.setWidth 8))
  | codechar, plainchar, buf => (codechar, plainchar, buf)

/-- The `do ... while (fragment < 0)` loop: the next fragment and the characters after it, or
`none` at `codeend`. -/
def nextFragment : List Byte → Option (CInt × List Byte)
  | [] => none
  | c :: codechar =>
    let fragment := base64DecodeValue c
    if fragment.slt 0 then nextFragment codechar else some (fragment, codechar)

theorem decodeQuads_length_le : ∀ (codechar : List Byte) (plainchar : Nat) (buf : OutBuf Byte),
    (decodeQuads codechar plainchar buf).1.length ≤ codechar.length
  | code0 :: code1 :: code2 :: code3 :: codechar, plainchar, buf => by
    unfold decodeQuads
    dsimp only
    split
    · exact Nat.le_refl _
    · refine Nat.le_trans (decodeQuads_length_le codechar _ _) ?_
      simp only [List.length_cons]
      omega
  | [], _, _ => Nat.le_refl _
  | [_], _, _ => Nat.le_refl _
  | [_, _], _, _ => Nat.le_refl _
  | [_, _, _], _, _ => Nat.le_refl _

theorem nextFragment_length_lt {codechar codechar' : List Byte} {fragment : CInt}
    (h : nextFragment codechar = some (fragment, codechar')) :
    codechar'.length < codechar.length := by
  induction codechar with
  | nil => simp [nextFragment] at h
  | cons c codechar ih =>
    simp only [nextFragment] at h
    split at h
    · exact Nat.lt_succ_of_lt (ih h)
    · simp only [Option.some.injEq, Prod.mk.injEq] at h
      rw [← h.2]
      exact Nat.lt_succ_self _

/-- The `while (1)` loop of `base64_decode_block_scalar`, entered at the label `step` with the
output position at `plainchar`. Yields the final position, the buffer and the state saved. -/
def decodeLoop (T : Target) (step : Base64DecodeStep) (codechar : List Byte) (plainchar : Nat)
    (buf : OutBuf Byte) : Nat × OutBuf Byte × Base64DecodeState :=
  match step with
  | .stepa =>
    match _hq : decodeQuads codechar plainchar buf with
    | (codechar', plainchar', buf') =>
      match _hf : nextFragment codechar' with
      | none => (plainchar', buf', { step := .stepa, plainchar := 0 })
      | some (fragment, codechar'') =>
        decodeLoop T .stepb codechar'' plainchar'
          (buf'.store plainchar' (toChar ((fragment &&& 0x03f) <<< 2)))
  | .stepb =>
    match _hf : nextFragment codechar with
    | none => (plainchar, buf, { step := .stepb, plainchar := buf.read plainchar })
    | some (fragment, codechar') =>
      let buf := buf.store plainchar
        (toChar (T.promote (buf.read plainchar) ||| (fragment &&& 0x030).sshiftRight 4))
      decodeLoop T .stepc codechar' (plainchar + 1)
        (buf.store (plainchar + 1) (toChar ((fragment &&& 0x00f) <<< 4)))
  | .stepc =>
    match _hf : nextFragment codechar with
    | none => (plainchar, buf, { step := .stepc, plainchar := buf.read plainchar })
    | some (fragment, codechar') =>
      let buf := buf.store plainchar
        (toChar (T.promote (buf.read plainchar) ||| (fragment &&& 0x03c).sshiftRight 2))
      decodeLoop T .stepd codechar' (plainchar + 1)
        (buf.store (plainchar + 1) (toChar ((fragment &&& 0x003) <<< 6)))
  | .stepd =>
    match _hf : nextFragment codechar with
    | none => (plainchar, buf, { step := .stepd, plainchar := buf.read plainchar })
    | some (fragment, codechar') =>
      decodeLoop T .stepa codechar' (plainchar + 1)
        (buf.store plainchar (toChar (T.promote (buf.read plainchar) ||| (fragment &&& 0x03f))))
termination_by codechar.length
decreasing_by
  · have hle := decodeQuads_length_le codechar plainchar buf
    have hlt := nextFragment_length_lt _hf
    rw [_hq] at hle
    exact Nat.lt_of_lt_of_le hlt hle
  all_goals exact nextFragment_length_lt _hf

/-- `base64_decode_block_scalar`, with `plaintext_out` pointing at index `plaintextOut` of the
buffer. -/
def base64DecodeBlockScalar (T : Target) (codeIn : List Byte) (plaintextOut : Nat)
    (buf : OutBuf Byte) (stateIn : Base64DecodeState) : Base64DecodeResult :=
  if codeIn.length = 0 then
    { state := stateIn, plaintextOut := buf, returned := 0 }
  else
    let buf := buf.store plaintextOut stateIn.plainchar
    let (plainchar, buf, state) := decodeLoop T stateIn.step codeIn plaintextOut buf
    { state, plaintextOut := buf, returned := plainchar - plaintextOut }

/-! ## The dispatcher -/

/-- The number of alphabet characters in front of the first other one. -/
def cleanLength : List Byte → Nat
  | [] => 0
  | c :: p => if (base64DecodeValue c).slt 0 then 0 else cleanLength p + 1

theorem cleanLength_le (p : List Byte) : cleanLength p ≤ p.length := by
  induction p with
  | nil => exact Nat.le_refl _
  | cons c p ih =>
    simp only [cleanLength, List.length_cons]
    split <;> omega

/-- The dispatching loop of `base64_decode_block`: bulk runs at `step_a`, else a scalar run of clean
characters and the byte that ends it. Yields the final position, the buffer and the state. -/
def dispatchLoop (T : Target) (simd : Base64DecodeBulkSimd) (p : List Byte) (o : Nat)
    (buf : OutBuf Byte) (state : Base64DecodeState) : Nat × OutBuf Byte × Base64DecodeState :=
  if _hrem : p.length = 0 then
    (o, buf, state)
  else if _hbulk : state.step = .stepa ∧ p.length ≥ 16 ∧ simd.consumed p ≠ 0 then
    let consumed := simd.consumed p
    dispatchLoop T simd (p.drop consumed) (o + consumed / 4 * 3) (buf.storeList o (simd.dst p))
      state
  else
    let clean := cleanLength p
    let take := if clean < p.length then clean + 1 else clean
    let r := base64DecodeBlockScalar T (p.take take) o buf state
    dispatchLoop T simd (p.drop take) (o + r.returned) r.plaintextOut r.state
termination_by p.length
decreasing_by
  · simp only [List.length_drop]
    omega
  · have := cleanLength_le p
    simp only [List.length_drop]
    split <;> omega

/-- `base64_decode_block`, dispatching to the bulk function `simd`. -/
def base64DecodeBlock (T : Target) (simd : Base64DecodeBulkSimd) (codeIn : List Byte)
    (plaintextOut : Nat) (buf : OutBuf Byte) (stateIn : Base64DecodeState) : Base64DecodeResult :=
  let (o, buf, state) := dispatchLoop T simd codeIn plaintextOut buf stateIn
  { state, plaintextOut := buf, returned := o - plaintextOut }

end Libb64
