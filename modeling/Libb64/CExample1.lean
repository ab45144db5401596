import Libb64.Cdecode
import Libb64.Cencode

/-!
# The string example, `c-example1.c`

A string is encoded and decoded with one block call each, into blocks of `SIZE` bytes. The blocks
are taken to be obtained: the example does not look at what `malloc` answers. A string of C is the
list of its bytes before the terminating zero.
-/

namespace Libb64

namespace CExample1

def SIZE : Nat := 100

/-- `encode`: the block returned, whose contents were `contents` before. -/
def encode (T : Target) (simd : Base64EncodeBulkSimd) (contents : Nat → Byte) (input : List Byte) :
    OutBuf Byte :=
  let r := base64EncodeBlock simd input (base64InitEncodestate T)
  let output := (OutBuf.fresh contents).storeList 0 r.codeOut
  let e := base64EncodeBlockend r.state
  let output := output.storeList r.returned e.codeOut
  output.store (r.returned + e.returned) 0

/-- `decode` -/
def decode (T : Target) (simd : Base64DecodeBulkSimd) (contents : Nat → Byte) (input : List Byte) :
    OutBuf Byte :=
  let r := base64DecodeBlock T simd input 0 (.fresh contents) base64InitDecodestate
  r.plaintextOut.store r.returned 0

/-- The string that a block of `SIZE` bytes holds. -/
def string (output : OutBuf Byte) : List Byte := (output.slice 0 SIZE).takeWhile (· ≠ 0)

/-- No store leaves the block. -/
def InBounds (output : OutBuf Byte) : Prop := ∀ j ∈ output.stores, j < SIZE

end CExample1

end Libb64
