import Libb64.NeonIntrinsics
import Libb64.Lib.BulkLoop

/-!
# The NEON encode kernel, `cencode_simd_neon.c`

A pass deals 48 bytes out to three registers, so that the bytes of a group stand in the same lane
of each, shifts the four indices of every group out of them, maps these to characters and stores
the four registers interleaved. The two instruction sets differ in the mapping only.
-/

namespace Libb64

open Neon

def b64Alphabet : List Byte :=
  "ABCDEFGHIJKLMNOPQRSTUVWXYZabcdefghijklmnopqrstuvwxyz0123456789+/".toList.map charCode

def offLut : List Byte := [65, 71, -4, -4, -4, -4, -4, -4, -4, -4, -4, -4, -19, -16, 0, 0]

def neonB64Ascii (isa : NeonIsa) (idx : U8x16) : U8x16 :=
  match isa with
  | .aarch64 => vqtbl4qU8 (fun k => tableQ b64Alphabet (16 * k)) idx
  | .armv7 =>
    let reduced := vqsubqU8 idx (vdupqN (51 : BitVec 8))
    let greater := vcgtqU8 idx (vdupqN (25 : BitVec 8))
    let reduced := vsubqU8 reduced greater
    let val0 := tableD offLut 0
    let val1 := tableD offLut 8
    vaddqU8 idx (vcombineU8 (vtbl2U8 val0 val1 (vgetLowU8 reduced))
      (vtbl2U8 val0 val1 (vgetHighU8 reduced)))

/-- The four indices of the groups in `a`, `b` and `c`. -/
def neonIndices (a b c : U8x16) : Nat → U8x16
  | 0 => vshrqN 8 a 2
  | 1 => vshlqN 8 (a &&& vdupqN (0x03 : BitVec 8)) 4 ||| vshrqN 8 b 4
  | 2 => vshlqN 8 (b &&& vdupqN (0x0f : BitVec 8)) 2 ||| vshrqN 8 c 6
  | _ => c &&& vdupqN (0x3f : BitVec 8)

/-- The loop of `encode_bulk_neon`. -/
def encodeLoopNeon (isa : NeonIsa) : BulkLoop Byte Byte where
  width := 48
  step := 48
  stride := 64
  body src s d buf :=
    match vld3qU8 src s with
    | none => .fault
    | some (a, b, c) => .next (vst4qU8 d (fun k => neonB64Ascii isa (neonIndices a b c k)) buf)
  step_pos := by decide
  step_le := by decide

/-- `encode_bulk_neon`; yields the number of bytes consumed, or `none` on a fault. -/
def encodeBulkNeon (isa : NeonIsa) (src : List Byte) (len : Nat) (buf : OutBuf Byte) :
    Option (Nat × OutBuf Byte) :=
  (encodeLoopNeon isa).run src len 0 0 buf

end Libb64
