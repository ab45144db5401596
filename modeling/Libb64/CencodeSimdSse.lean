import Libb64.X86Intrinsics
import Libb64.Lib.BulkLoop

/-!
# The x86 encode kernels, `cencode_simd_sse.c`

Both kernels read a register, put the three bytes of each group into one dword, split the group
into four indices and map these to characters. The source spells the splitting and the mapping out
at both register sizes; here they are functions of the size. `dst` is the address of the output
buffer: it decides whether the stores bypass the cache.
-/

namespace Libb64

open X86

def b64NtEncodeMin : Nat := 6 <<< 20

/-- The arguments of `set_epi8` in `shuf`, for one 128-bit lane. -/
def encodeShuf : List Byte := [10, 11, 9, 10, 7, 8, 6, 7, 4, 5, 3, 4, 1, 2, 0, 1]

/-- The arguments of `setr_epi8` in `lut`, for one 128-bit lane. -/
def encodeLut : List Byte := [65, 71, -4, -4, -4, -4, -4, -4, -4, -4, -4, -4, -19, -16, 0, 0]

section Registers

variable {n : Nat}

/-- Splits each 24-bit group into four 6-bit indices. -/
def encodeIndices (input : BitVec n) : BitVec n :=
  let t0 := input &&& set1Epi32 n 0x0fc0fc00
  let t1 := mulhiEpu16 t0 (set1Epi32 n 0x04000040)
  let t2 := input &&& set1Epi32 n 0x003f03f0
  let t3 := mulloEpi16 t2 (set1Epi32 n 0x01000010)
  t1 ||| t3

/-- Maps indices to characters, without a branch. -/
def encodeAscii (lut indices : BitVec n) : BitVec n :=
  let reduced := subsEpu8 indices (set1Epi8 n 51)
  let greater := cmpgtEpi8 indices (set1Epi8 n 25)
  let reduced := subEpi8 reduced greater
  addEpi8 indices (shuffleEpi8 lut reduced)

/-- The store that ends an iteration. -/
def encodeStore (useNt : Bool) (dst d : Nat) (out : BitVec n) (buf : OutBuf Byte) :
    Pass (OutBuf Byte) :=
  if useNt then
    match stream dst d out buf with
    | none => .fault
    | some buf => .next buf
  else
    .next (storeu d out buf)

end Registers

/-- The loop of `encode_bulk_sse41`. -/
def encodeLoopSse41 (useNt : Bool) (dst : Nat) : BulkLoop Byte Byte where
  width := 16
  step := 12
  stride := 16
  body src s d buf :=
    match loadu 128 src s with
    | none => .fault
    | some input =>
      let input := shuffleEpi8 input (setEpi8 128 encodeShuf)
      let out := encodeAscii (setrEpi8 128 encodeLut) (encodeIndices input)
      encodeStore useNt dst d out buf
  step_pos := by decide
  step_le := by decide

/-- `encode_bulk_sse41`; yields the number of bytes consumed, or `none` on a fault. -/
def encodeBulkSse41 (src : List Byte) (len dst : Nat) (buf : OutBuf Byte) :
    Option (Nat × OutBuf Byte) :=
  let useNt := decide (len ≥ b64NtEncodeMin ∧ dst &&& 15 = 0)
  (encodeLoopSse41 useNt dst).run src len 0 0 buf

/-- The loop of `encode_bulk_avx2`. -/
def encodeLoopAvx2 (useNt : Bool) (dst : Nat) : BulkLoop Byte Byte where
  width := 32
  step := 24
  stride := 32
  body src s d buf :=
    match loadu 256 src s with
    | none => .fault
    | some input =>
      let input := permutevar8x32Epi32 input (setrEpi32 [0, 1, 2, 3, 3, 4, 5, 6])
      let input := shuffleEpi8 input (setEpi8 256 (encodeShuf ++ encodeShuf))
      let out := encodeAscii (setrEpi8 256 (encodeLut ++ encodeLut)) (encodeIndices input)
      encodeStore useNt dst d out buf
  step_pos := by decide
  step_le := by decide

def encodeBulkAvx2 (src : List Byte) (len dst : Nat) (buf : OutBuf Byte) :
    Option (Nat × OutBuf Byte) :=
  let useNt := decide (len ≥ b64NtEncodeMin ∧ dst &&& 31 = 0)
  (encodeLoopAvx2 useNt dst).run src len 0 0 buf

def encodeBulkNone (_src : List Byte) (_len _dst : Nat) (buf : OutBuf Byte) :
    Option (Nat × OutBuf Byte) :=
  some (0, buf)

/-- The kernel that `encode_resolve` picks for a CPU. -/
def encodeResolve (cpu : X86Cpu) :
    List Byte → Nat → Nat → OutBuf Byte → Option (Nat × OutBuf Byte) :=
  if cpu.hasAvx2 then encodeBulkAvx2
  else if cpu.hasSse41 then encodeBulkSse41
  else encodeBulkNone

end Libb64
