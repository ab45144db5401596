import Libb64.Lib.Checked
import Libb64.Cencode12Table
import Libb64.Internal

/-!
# The encoder, `cencode.c`

The block encoder is a coroutine over the three bytes of a group: it may be left after any byte and
resumed by a later call. A call reads a list of bytes and yields the new state together with the
characters stored from `code_out` on, in order; its return value is their number.
-/

namespace Libb64

variable {T : Target}

inductive Base64EncodeStep where
  | stepA
  | stepB
  | stepC
deriving DecidableEq, Repr

/-- `base64_encodestate`, less `cflags`, which nothing reads. -/
structure Base64EncodeState (T : Target) where
  stepcount : T.SizeT
  charsPerLine : T.SizeT
  step : Base64EncodeStep
  result : Byte
deriving DecidableEq, Repr

/-- What a call leaves behind: the state, the characters it stored and the value it returned. -/
structure Base64EncodeResult (T : Target) where
  state : Base64EncodeState T
  codeOut : List Byte
  returned : Nat

def base64InitEncodestate (T : Target) : Base64EncodeState T where
  step := .stepA
  result := 0
  stepcount := 0
  charsPerLine := 0

def base64EncodeLength (plainLen : T.SizeT) (stateIn : Base64EncodeState T) :
    Checked T.SizeT := do
  let cpl := stateIn.charsPerLine
  let retmax : T.SizeT := ~~~0
  if plainLen > (← Checked.sub retmax 2) then
    return 0
  let retval := (← Checked.add plainLen 2) / 3
  if retval > retmax / 4 then
    return 0
  let retval ← Checked.mul retval 4
  if retval ≠ 0 ∧ cpl ≠ 0 then
    let numbreaks ← Checked.add ((← Checked.sub retval 1) / cpl) 1
    let retmax ← Checked.sub retmax retval
    if numbreaks < retmax then
      Checked.add numbreaks retval
    else
      return 0
  else if cpl ≠ 0 then
    return 1
  else
    return retval

/-- `base64_encode_value`; the argument is looked at as an `unsigned char`. -/
def base64EncodeValue (valueIn : Byte) : Byte :=
  if valueIn > 63 then charCode '=' else encoding.getD valueIn.toNat 0

/-- `encoding[(int)result]` -/
def encodingAt (T : Target) (result : Byte) : Byte :=
  encoding.getD (T.promote result).toNat 0

def newline : Byte := charCode '\n'

/-- `CHECK_BREAK`: a newline if the line is full, and the count of the character that follows. -/
def checkBreak (stateIn : Base64EncodeState T) : Base64EncodeState T × List Byte :=
  let cpl := stateIn.charsPerLine
  let (stateIn, codechar) :=
    if cpl ≠ 0 ∧ stateIn.stepcount ≥ cpl then ({ stateIn with stepcount := 0 }, [newline])
    else (stateIn, [])
  ({ stateIn with stepcount := stateIn.stepcount + 1 }, codechar)

/-! ## The per-character path

The source keeps `result` in a local variable and writes it and the label back on return. Nothing
reads the state in between, so the cases update it right away. -/

/-- `case step_A`, once there is a byte to read. -/
def encodeStepA (stateIn : Base64EncodeState T) (fragment : Byte) :
    Base64EncodeState T × List Byte :=
  let (stateIn, brk) := checkBreak stateIn
  let result := toChar ((T.promote fragment &&& 0x0fc).sshiftRight 2)
  let codechar := brk ++ [encodingAt T result]
  let result := toChar ((T.promote fragment &&& 0x003) <<< 4)
  ({ stateIn with step := .stepB, result }, codechar)

/-- `case step_B`, once there is a byte to read. -/
def encodeStepB (stateIn : Base64EncodeState T) (fragment : Byte) :
    Base64EncodeState T × List Byte :=
  let (stateIn, brk) := checkBreak stateIn
  let result := toChar (T.promote stateIn.result ||| (T.promote fragment &&& 0x0f0).sshiftRight 4)
  let codechar := brk ++ [encodingAt T result]
  let result := toChar ((T.promote fragment &&& 0x00f) <<< 2)
  ({ stateIn with step := .stepC, result }, codechar)

/-- `case step_C`, once there is a byte to read: the byte completes one character and holds
another. -/
def encodeStepC (stateIn : Base64EncodeState T) (fragment : Byte) :
    Base64EncodeState T × List Byte :=
  let (stateIn, brk) := checkBreak stateIn
  let result := toChar (T.promote stateIn.result ||| (T.promote fragment &&& 0x0c0).sshiftRight 6)
  let codechar := brk ++ [encodingAt T result]
  let (stateIn, brk) := checkBreak stateIn
  let result := toChar ((T.promote fragment &&& 0x03f).sshiftRight 0)
  let codechar := codechar ++ brk ++ [encodingAt T result]
  ({ stateIn with step := .stepA, result }, codechar)

/-- One byte through the per-character path. -/
def encodeFragment (stateIn : Base64EncodeState T) (fragment : Byte) :
    Base64EncodeState T × List Byte :=
  match stateIn.step with
  | .stepA => encodeStepA stateIn fragment
  | .stepB => encodeStepB stateIn fragment
  | .stepC => encodeStepC stateIn fragment

/-! ## The block functions -/

/-- The body of the table loop: a triple becomes two table entries of two characters each. -/
def encodeTriple (src0 src1 src2 : Byte) : List Byte :=
  let v : BitVec 32 := src0.setWidth 32 <<< 16 ||| src1.setWidth 32 <<< 8 ||| src2.setWidth 32
  let hi := base64Enc12.getD (v >>> 12).toNat 0
  let lo := base64Enc12.getD (v &&& 0xfff).toNat 0
  [(hi &&& 0xff).setWidth 8, (hi >>> 8).setWidth 8,
    (lo &&& 0xff).setWidth 8, (lo >>> 8).setWidth 8]

/-- The table loop over whole triples: the characters stored and the bytes it leaves. -/
def encodeTriples : List Byte → List Byte × List Byte
  | src0 :: src1 :: src2 :: src =>
    let (dst, src) := encodeTriples src
    (encodeTriple src0 src1 src2 ++ dst, src)
  | src => ([], src)

/-- The bulk path at `step_A`, taken when lines are not wrapped. -/
def encodeBulkPath (stateIn : Base64EncodeState T) (plainchar : List Byte) :
    Base64EncodeState T × List Byte × List Byte :=
  if stateIn.step = .stepA ∧ stateIn.charsPerLine = 0 then
    let (dst, src) := encodeTriples plainchar
    ({ stateIn with stepcount := stateIn.stepcount + BitVec.ofNat _ dst.length }, dst, src)
  else
    (stateIn, [], plainchar)

theorem encodeTriples_length_le : ∀ plainchar : List Byte,
    (encodeTriples plainchar).2.length ≤ plainchar.length
  | [] => Nat.le_refl _
  | [_] => Nat.le_refl _
  | [_, _] => Nat.le_refl _
  | _ :: _ :: _ :: src => by
    have ih := encodeTriples_length_le src
    simp only [encodeTriples, List.length_cons]
    omega

theorem encodeBulkPath_length_le (stateIn : Base64EncodeState T) (plainchar : List Byte) :
    (encodeBulkPath stateIn plainchar).2.2.length ≤ plainchar.length := by
  unfold encodeBulkPath
  split
  · exact encodeTriples_length_le plainchar
  · exact Nat.le_refl _

/-- The `for(;;)` loop of `base64_encode_block_scalar`, entered at the label `step`. -/
def encodeLoop (stateIn : Base64EncodeState T) (plainchar : List Byte) :
    Base64EncodeState T × List Byte :=
  match _h : encodeBulkPath stateIn plainchar with
  | (state, bulk, []) => (state, bulk)
  | (state, bulk, fragment :: plainchar') =>
    let (state', code) := encodeFragment state fragment
    let (state'', code') := encodeLoop state' plainchar'
    (state'', bulk ++ code ++ code')
termination_by plainchar.length
decreasing_by
  have hle := encodeBulkPath_length_le stateIn plainchar
  rw [_h] at hle
  exact hle

def base64EncodeBlockScalar (plaintextIn : List Byte) (stateIn : Base64EncodeState T) :
    Base64EncodeResult T :=
  let (state, codeOut) := encodeLoop stateIn plaintextIn
  { state, codeOut, returned := codeOut.length }

/-- `base64_encode_block`, dispatching to the bulk function `simd`. -/
def base64EncodeBlock (simd : Base64EncodeBulkSimd) (plaintextIn : List Byte)
    (stateIn : Base64EncodeState T) : Base64EncodeResult T :=
  if stateIn.step = .stepA ∧ stateIn.charsPerLine = 0 then
    let consumed := simd.consumed plaintextIn
    if consumed ≠ 0 then
      let produced := consumed / 3 * 4
      let stateIn := { stateIn with stepcount := stateIn.stepcount + BitVec.ofNat _ produced }
      let r := base64EncodeBlockScalar (plaintextIn.drop consumed) stateIn
      { r with codeOut := simd.dst plaintextIn ++ r.codeOut, returned := produced + r.returned }
    else
      base64EncodeBlockScalar plaintextIn stateIn
  else
    base64EncodeBlockScalar plaintextIn stateIn

def base64EncodeBlockend (stateIn : Base64EncodeState T) : Base64EncodeResult T :=
  let (state, codechar) :=
    match stateIn.step with
    | .stepB =>
      let (stateIn, brk) := checkBreak stateIn
      let codechar := brk ++ [base64EncodeValue stateIn.result]
      let (stateIn, brk) := checkBreak stateIn
      let codechar := codechar ++ brk ++ [charCode '=']
      let (stateIn, brk) := checkBreak stateIn
      (stateIn, codechar ++ brk ++ [charCode '='])
    | .stepC =>
      let (stateIn, brk) := checkBreak stateIn
      let codechar := brk ++ [base64EncodeValue stateIn.result]
      let (stateIn, brk) := checkBreak stateIn
      (stateIn, codechar ++ brk ++ [charCode '='])
    | .stepA => (stateIn, [])
  let codechar := if state.charsPerLine ≠ 0 then codechar ++ [newline] else codechar
  { state, codeOut := codechar, returned := codechar.length }

end Libb64
