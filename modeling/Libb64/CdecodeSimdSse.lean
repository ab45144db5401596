import Libb64.X86Intrinsics
import Libb64.Lib.BulkLoop

/-!
# The x86 decode kernels, `cdecode_simd_sse.c`

Both kernels read a register, look the two halves of each byte up in two tables to find bytes
outside the alphabet, add an offset found by the high half to get the values, and pack four values
into three bytes. As on the encoding side, what the source spells out at both register sizes is a
function of the size.
-/

namespace Libb64

open X86 Lanes

/-- The tables, for one 128-bit lane. -/
def decodeLutLo : List Byte :=
  [0x15, 0x11, 0x11, 0x11, 0x11, 0x11, 0x11, 0x11, 0x11, 0x11, 0x13, 0x1A, 0x1B, 0x1B, 0x1B, 0x1A]

def decodeLutHi : List Byte :=
  [0x10, 0x10, 0x01, 0x02, 0x04, 0x08, 0x04, 0x08, 0x10, 0x10, 0x10, 0x10, 0x10, 0x10, 0x10, 0x10]

def decodeLutRoll : List Byte := [0, 16, 19, 4, -65, -65, -71, -71, 0, 0, 0, 0, 0, 0, 0, 0]

def decodePack : List Byte := [2, 1, 0, 6, 5, 4, 10, 9, 8, 14, 13, 12, -1, -1, -1, -1]

section Registers

variable {n : Nat}

/-- The high halves of the bytes. -/
def hiNib (v : BitVec n) : BitVec n := srliEpi32 v 4 &&& set1Epi8 n 0x0f

/-- Whether the two lookups have no bit in common in any byte. -/
def decodeClean (lutLo lutHi v : BitVec n) : Bool :=
  let loNib := v &&& set1Epi8 n 0x0f
  let lo := shuffleEpi8 lutLo loNib
  let hi := shuffleEpi8 lutHi (hiNib v)
  testz lo hi

/-- The values of the characters. -/
def decodeVals (lutRoll v : BitVec n) : BitVec n :=
  let eq2f := cmpeqEpi8 v (set1Epi8 n 0x2f)
  let roll := shuffleEpi8 lutRoll (addEpi8 eq2f (hiNib v))
  addEpi8 v roll

/-- Packs four six-bit values into the low three bytes of a dword. -/
def decodeMerge (vals : BitVec n) : BitVec n :=
  let ab := maddubsEpi16 vals (set1Epi32 n 0x01400140)
  maddEpi16 ab (set1Epi32 n 0x00011000)

end Registers

/-- The loop of `decode_bulk_sse41`; twelve bytes of the register are copied out. -/
def decodeLoopSse41 : BulkLoop Byte Byte where
  width := 16
  step := 16
  stride := 12
  body src s d buf :=
    match loadu 128 src s with
    | none => .fault
    | some v =>
      if decodeClean (setrEpi8 128 decodeLutLo) (setrEpi8 128 decodeLutHi) v then
        let vals := decodeVals (setrEpi8 128 decodeLutRoll) v
        let out := shuffleEpi8 (decodeMerge vals) (setrEpi8 128 decodePack)
        .next (buf.storeList d (toList 8 out 12))
      else
        .leave
  step_pos := by decide
  step_le := by decide

/-- `decode_bulk_sse41`; yields the number of characters consumed, or `none` on a fault. -/
def decodeBulkSse41 (src : List Byte) (len : Nat) (buf : OutBuf Byte) :
    Option (Nat × OutBuf Byte) :=
  decodeLoopSse41.run src len 0 0 buf

/-- The loop of `decode_bulk_avx2`. -/
def decodeLoopAvx2 : BulkLoop Byte Byte where
  width := 32
  step := 32
  stride := 24
  body src s d buf :=
    match loadu 256 src s with
    | none => .fault
    | some v =>
      if decodeClean (setrEpi8 256 (decodeLutLo ++ decodeLutLo))
          (setrEpi8 256 (decodeLutHi ++ decodeLutHi)) v then
        let vals := decodeVals (setrEpi8 256 (decodeLutRoll ++ decodeLutRoll)) v
        let shuffled := shuffleEpi8 (decodeMerge vals) (setrEpi8 256 (decodePack ++ decodePack))
        let out := permutevar8x32Epi32 shuffled (setrEpi32 [0, 1, 2, 4, 5, 6, 7, 7])
        .next (buf.storeList d (toList 8 out 24))
      else
        .leave
  step_pos := by decide
  step_le := by decide

def decodeBulkAvx2 (src : List Byte) (len : Nat) (buf : OutBuf Byte) :
    Option (Nat × OutBuf Byte) :=
  decodeLoopAvx2.run src len 0 0 buf

def decodeBulkNone (_src : List Byte) (_len : Nat) (buf : OutBuf Byte) :
    Option (Nat × OutBuf Byte) :=
  some (0, buf)

/-- The kernel that `decode_resolve` picks for a CPU. -/
def decodeResolve (cpu : X86Cpu) : List Byte → Nat → OutBuf Byte → Option (Nat × OutBuf Byte) :=
  if cpu.hasAvx2 then decodeBulkAvx2
  else if cpu.hasSse41 then decodeBulkSse41
  else decodeBulkNone

end Libb64
