import Libb64.NeonIntrinsics
import Libb64.Lib.BulkLoop

/-!
# The NEON decode kernel, `cdecode_simd_neon.c`

The tables and the lookups are those of the x86 kernels. The values are packed with shifts: two
bytes into the 12 bits of a 16-bit lane, two such lanes into the 24 bits of a 32-bit one.
-/

namespace Libb64

open Neon Lanes

def neonLut16 (isa : NeonIsa) (tbl idx : U8x16) : U8x16 :=
  match isa with
  | .aarch64 => vqtbl1qU8 tbl idx
  | .armv7 =>
    let val0 := vgetLowU8 tbl
    let val1 := vgetHighU8 tbl
    vcombineU8 (vtbl2U8 val0 val1 (vgetLowU8 idx)) (vtbl2U8 val0 val1 (vgetHighU8 idx))

/-- The static tables of `decode_bulk_neon`. -/
def neonLutLo : List Byte :=
  [0x15, 0x11, 0x11, 0x11, 0x11, 0x11, 0x11, 0x11, 0x11, 0x11, 0x13, 0x1A, 0x1B, 0x1B, 0x1B, 0x1A]

def neonLutHi : List Byte :=
  [0x10, 0x10, 0x01, 0x02, 0x04, 0x08, 0x04, 0x08, 0x10, 0x10, 0x10, 0x10, 0x10, 0x10, 0x10, 0x10]

def neonLutRoll : List Byte := [0, 16, 19, 4, -65, -65, -71, -71, 0, 0, 0, 0, 0, 0, 0, 0]

def neonPackIdx : List Byte := [2, 1, 0, 6, 5, 4, 10, 9, 8, 14, 13, 12, 0xff, 0xff, 0xff, 0xff]

/-- Whether both 64-bit halves of the error mask are zero. -/
def neonClean (isa : NeonIsa) (v : U8x16) : Bool :=
  let hiNib := vshrqN 8 v 4
  let loNib := v &&& vdupqN (0x0f : BitVec 8)
  let lo := neonLut16 isa (tableQ neonLutLo 0) loNib
  let hi := neonLut16 isa (tableQ neonLutHi 0) hiNib
  let err := lo &&& hi
  vgetqLaneU64 err 0 ||| vgetqLaneU64 err 1 == 0

/-- The values of the characters. -/
def neonVals (isa : NeonIsa) (v : U8x16) : U8x16 :=
  let hiNib := vshrqN 8 v 4
  let eq2f := vceqqU8 v (vdupqN (0x2f : BitVec 8))
  let roll := neonLut16 isa (tableQ neonLutRoll 0) (vaddqU8 eq2f hiNib)
  vaddqU8 v roll

/-- Packs four six-bit values into the low three bytes of a 32-bit lane. -/
def neonMerge (vals : U8x16) : U8x16 :=
  let b12 := vshlqN 16 (vals &&& vdupqN (0x003f : BitVec 16)) 6 ||| vshrqN 16 vals 8
  vshlqN 32 (b12 &&& vdupqN (0x00000fff : BitVec 32)) 12 ||| vshrqN 32 b12 16

/-- The loop of `decode_bulk_neon`; twelve bytes of the register are copied out. -/
def decodeLoopNeon (isa : NeonIsa) : BulkLoop Byte Byte where
  width := 16
  step := 16
  stride := 12
  body src s d buf :=
    match vld1qU8 src s with
    | none => .fault
    | some v =>
      if neonClean isa v then
        let packed := neonLut16 isa (neonMerge (neonVals isa v)) (tableQ neonPackIdx 0)
        .next (buf.storeList d (toList 8 packed 12))
      else
        .leave
  step_pos := Nat.succ_pos 15
  step_le := Nat.le.refl

/-- `decode_bulk_neon`; yields the number of characters consumed, or `none` on a fault. -/
def decodeBulkNeon (isa : NeonIsa) (src : List Byte) (len : Nat) (buf : OutBuf Byte) :
    Option (Nat × OutBuf Byte) :=
  (decodeLoopNeon isa).run src len 0 0 buf

end Libb64
