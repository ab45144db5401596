import Libb64.Alloc
import Libb64.Cdecode

/-!
# The decoder object, `decode.h`

A `base64::decoder` owns a decoder state, a buffer size and an allocator. Its stream function
starts from a fresh state, takes two scratch blocks, reads the input buffer by buffer and decodes
each buffer into the second block.
-/

namespace Libb64

variable {T : Target}

/-- `base64::decoder`; the constructor leaves no buffer size below 1. -/
structure Decoder (T : Target) where
  state : Base64DecodeState
  buffersize : CInt
  alloc : B64Allocator T
  buffersize_pos : 1 ≤ buffersize.toInt

structure DecoderBuilder (T : Target) where
  bufferSize : CInt
  alloc : B64Allocator T

/-- `decoder_builder()` -/
def decoderBuilder (newArray : List (ReallocCall T) → T.SizeT → Option Nat) : DecoderBuilder T where
  bufferSize := 65536
  alloc := defaultCppAllocator newArray

def DecoderBuilder.build (b : DecoderBuilder T) : Decoder T where
  state := base64InitDecodestate
  buffersize := clampBuffersize b.bufferSize
  alloc := b.alloc
  buffersize_pos := clampBuffersize_pos b.bufferSize

/-- `decoder::decode` of a block; a non-positive length is no call at all. -/
def decoderDecode (T : Target) (simd : Base64DecodeBulkSimd) (codeIn : List Byte)
    (plaintextOut : OutBuf Byte) (state : Base64DecodeState) : Base64DecodeResult :=
  if codeIn.length = 0 then
    { state, plaintextOut, returned := 0 }
  else
    base64DecodeBlock T simd codeIn 0 plaintextOut state

/-- What decoding a stream leaves behind: the object, the allocator's calls, whether it threw, the
size asked for the plaintext block, the indices of it that were stored to, and the bytes
written. -/
structure DecodeStreamResult (T : Target) where
  decoder : Decoder T
  calls : List (ReallocCall T)
  thrown : Bool
  plaintextSize : Option T.SizeT
  plaintextStores : List Nat
  ostreamOut : List Byte

/-- The result of a call that throws `std::bad_alloc`. -/
def DecodeStreamResult.badAlloc (decoder : Decoder T) (calls : List (ReallocCall T))
    (plaintextSize : Option T.SizeT) : DecodeStreamResult T where
  decoder
  calls
  thrown := true
  plaintextSize
  plaintextStores := []
  ostreamOut := []

/-- The `do ... while` loop of `decoder::decode`: the plaintext block and the bytes written. The
state it leaves is overwritten. -/
def decodeStreamLoop (T : Target) (simd : Base64DecodeBulkSimd) (N : Nat) (istreamIn : List Byte)
    (plaintext : OutBuf Byte) (state : Base64DecodeState) : OutBuf Byte × List Byte :=
  let code := (istreamRead istreamIn N).delivered
  let r := decoderDecode T simd code plaintext state
  let written := r.plaintextOut.slice 0 r.returned
  if _h : (istreamRead istreamIn N).good ∧ code.length > 0 then
    let (plaintext', ostreamOut) :=
      decodeStreamLoop T simd N (istreamRead istreamIn N).remaining r.plaintextOut r.state
    (plaintext', written ++ ostreamOut)
  else
    (r.plaintextOut, written)
termination_by istreamIn.length
decreasing_by
  simp [istreamRead, code] at _h ⊢
  omega

/-- `decoder::decode` of a stream; `contents` is what the plaintext block holds when it is
obtained. -/
def Decoder.decodeStream (simd : Base64DecodeBulkSimd) (d : Decoder T)
    (calls : List (ReallocCall T)) (contents : Nat → Byte) (istreamIn : List Byte) :
    DecodeStreamResult T :=
  let d := { d with state := base64InitDecodestate }
  let N := d.buffersize
  match d.alloc.allocScratch calls (T.ofInt N) with
  | (calls, .badAlloc) => .badAlloc d calls none
  | (calls, .null) => .badAlloc d calls none
  | (calls, .block code) =>
    let size : T.SizeT := base64DecodeMaxlength (T.ofInt N)
    match d.alloc.allocScratch calls size with
    | (calls, .badAlloc) => .badAlloc d calls (some size)
    | (calls, .null) => .badAlloc d (freeScratch calls code) (some size)
    | (calls, .block plaintext) =>
      let (buf, ostreamOut) :=
        decodeStreamLoop T simd N.toNat istreamIn (.fresh contents) d.state
      { decoder := { d with state := base64InitDecodestate }
        calls := freeScratch (freeScratch calls code) plaintext
        thrown := false
        plaintextSize := some size
        plaintextStores := buf.stores
        ostreamOut }

end Libb64
