import Libb64.Alloc
import Libb64.Cencode

/-!
# The encoder object, `encode.h`

A `base64::encoder` owns an encoder state, a buffer size and an allocator. Its stream function
takes two scratch blocks, reads the input buffer by buffer and encodes each buffer into the second
block; it may leave by `std::bad_alloc`. `std::streamsize` is taken to hold every length.
-/

namespace Libb64

variable {T : Target}

/-- `base64::encoder`; the constructor leaves no buffer size below 1. -/
structure Encoder (T : Target) where
  state : Base64EncodeState T
  buffersize : CInt
  alloc : B64Allocator T
  buffersize_pos : 1 ≤ buffersize.toInt

structure EncoderBuilder (T : Target) where
  bufferSize : CInt
  charsPerLine : T.SizeT
  alloc : B64Allocator T

/-- `encoder_builder()`, with `BUFFERSIZE` bytes, unwrapped lines and the default allocator. -/
def encoderBuilder (newArray : List (ReallocCall T) → T.SizeT → Option Nat) : EncoderBuilder T where
  bufferSize := 65536
  charsPerLine := 0
  alloc := defaultCppAllocator newArray

def EncoderBuilder.build (b : EncoderBuilder T) : Encoder T where
  state := { base64InitEncodestate T with charsPerLine := b.charsPerLine }
  buffersize := clampBuffersize b.bufferSize
  alloc := b.alloc
  buffersize_pos := clampBuffersize_pos b.bufferSize

/-- `encoder::encode` of a block; a non-positive length is no call at all. -/
def encoderEncode (simd : Base64EncodeBulkSimd) (codeIn : List Byte)
    (state : Base64EncodeState T) : Base64EncodeResult T :=
  if codeIn.length = 0 then
    { state, codeOut := [], returned := 0 }
  else
    base64EncodeBlock simd codeIn state

/-- What encoding a stream leaves behind: the object, the allocator's calls, whether it threw, the
size asked for the code block, what each call stored from the start of that block, and the text
written. -/
structure EncodeStreamResult (T : Target) where
  encoder : Encoder T
  calls : List (ReallocCall T)
  thrown : Bool
  codeSize : Option T.SizeT
  codeStores : List (List Byte)
  ostreamOut : List Byte

/-- The result of a call that throws `std::bad_alloc`. -/
def EncodeStreamResult.badAlloc (encoder : Encoder T) (calls : List (ReallocCall T))
    (codeSize : Option T.SizeT) : EncodeStreamResult T where
  encoder
  calls
  thrown := true
  codeSize
  codeStores := []
  ostreamOut := []

/-- The `do ... while` loop of `encoder::encode`: the state, what each call stored, and the text
written. -/
def encodeStreamLoop (simd : Base64EncodeBulkSimd) (N : Nat) (istreamIn : List Byte)
    (state : Base64EncodeState T) : Base64EncodeState T × List (List Byte) × List Byte :=
  let plaintext := (istreamRead istreamIn N).delivered
  let r := encoderEncode simd plaintext state
  let written := r.codeOut.take r.returned
  if _h : (istreamRead istreamIn N).good ∧ plaintext.length > 0 then
    let (state', stores, ostreamOut) :=
      encodeStreamLoop simd N (istreamRead istreamIn N).remaining r.state
    (state', r.codeOut :: stores, written ++ ostreamOut)
  else
    (r.state, [r.codeOut], written)
termination_by istreamIn.length
decreasing_by
  simp [istreamRead, plaintext] at _h ⊢
  omega

/-- `encoder::encode` of a stream -/
def Encoder.encodeStream (simd : Base64EncodeBulkSimd) (e : Encoder T)
    (calls : List (ReallocCall T)) (istreamIn : List Byte) : EncodeStreamResult T :=
  let N := e.buffersize
  match e.alloc.allocScratch calls (T.ofInt N) with
  | (calls, .badAlloc) => .badAlloc e calls none
  | (calls, .null) => .badAlloc e calls none
  | (calls, .block plaintext) =>
    let cap := (base64EncodeLength (T.ofInt N) e.state).value
    if cap = 0 then
      .badAlloc e (freeScratch calls plaintext) none
    else
      match e.alloc.allocScratch calls (cap + 16) with
      | (calls, .badAlloc) => .badAlloc e calls (some (cap + 16))
      | (calls, .null) => .badAlloc e (freeScratch calls plaintext) (some (cap + 16))
      | (calls, .block code) =>
        let (state, stores, ostreamOut) := encodeStreamLoop simd N.toNat istreamIn e.state
        let r := base64EncodeBlockend state
        let cpl := r.state.charsPerLine
        let state := { base64InitEncodestate T with charsPerLine := cpl }
        { encoder := { e with state }
          calls := freeScratch (freeScratch calls code) plaintext
          thrown := false
          codeSize := some (cap + 16)
          codeStores := stores ++ [r.codeOut]
          ostreamOut := ostreamOut ++ r.codeOut.take r.returned }

end Libb64
