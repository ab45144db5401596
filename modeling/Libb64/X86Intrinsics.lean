import Libb64.Lib.Lanes
import Libb64.Lib.OutBuf
import Libb64.Target

/-!
# The x86 intrinsics of the bulk kernels

The documented operations behind `_mm_…` and `_mm256_…`. An operation that SSE4.1 and AVX2 have at
both register sizes is one function of the size `n`; a shuffle of bytes stays within its 128-bit
lane at either size. Memory is a list of bytes on the reading side: a load that reaches past its
end is a fault, and so is a streaming store to an address that is not a multiple of the register's
size in bytes.
-/

namespace Libb64

open Lanes

abbrev M256i := BitVec 256

/-- What the kernels are chosen by: `b64_cpu_has_avx2` and `b64_cpu_has_sse41`. -/
structure X86Cpu where
  hasAvx2 : Bool
  hasSse41 : Bool

namespace X86

variable {n : Nat}

/-! ## Constants -/

def set1Epi8 (n : Nat) (c : BitVec 8) : BitVec n := ofLanes n fun _ => c

def set1Epi32 (n : Nat) (c : BitVec 32) : BitVec n := ofLanes n fun _ => c

/-- `setr_epi8`: the lanes from the first on. -/
def setrEpi8 (n : Nat) (cs : List (BitVec 8)) : BitVec n := ofLanes n fun i => cs.getD i 0

/-- `set_epi8`: the lanes from the last on. -/
def setEpi8 (n : Nat) (cs : List (BitVec 8)) : BitVec n := setrEpi8 n cs.reverse

def setrEpi32 (cs : List (BitVec 32)) : M256i := ofLanes 256 fun i => cs.getD i 0

/-! ## Bytes -/

def addEpi8 : BitVec n → BitVec n → BitVec n := zip 8 fun a b => a + b

def subEpi8 : BitVec n → BitVec n → BitVec n := zip 8 fun a b => a - b

/-- `subs_epu8`: unsigned, with saturation at 0. -/
def subsEpu8 : BitVec n → BitVec n → BitVec n := zip 8 fun a b => if a < b then 0 else a - b

def cmpeqEpi8 : BitVec n → BitVec n → BitVec n := zip 8 fun a b => if a = b then 0xff else 0

/-- `cmpgt_epi8`: signed. -/
def cmpgtEpi8 : BitVec n → BitVec n → BitVec n := zip 8 fun a b => if b.slt a then 0xff else 0

/-- `shuffle_epi8`: the byte that the low four bits of `b` select in its own 128-bit lane of `a`, or
0 where the top bit of `b` is set. -/
def shuffleEpi8 (a b : BitVec n) : BitVec n :=
  ofLanes n fun i =>
    let select := lane 8 b i
    if select.msb then 0 else lane 8 a (16 * (i / 16) + (select &&& 0x0f).toNat)

/-! ## Wider lanes -/

def mulloEpi16 : BitVec n → BitVec n → BitVec n := zip 16 fun a b => a * b

/-- `mulhi_epu16`: the high halves of the unsigned products. -/
def mulhiEpu16 : BitVec n → BitVec n → BitVec n :=
  zip 16 fun a b => ((a.setWidth 32 * b.setWidth 32) >>> 16).setWidth 16

def srliEpi32 (a : BitVec n) (count : Nat) : BitVec n := map 32 (fun a => a >>> count) a

/-- Saturation to a signed 16-bit value. -/
def saturate16 (x : Int) : BitVec 16 := BitVec.ofInt 16 (max (-32768) (min 32767 x))

/-- `maddubs_epi16`: the products of the unsigned bytes of `a` and the signed bytes of `b`, added in
pairs with saturation. -/
def maddubsEpi16 (a b : BitVec n) : BitVec n :=
  ofLanes n fun i =>
    saturate16 ((lane 8 a (2 * i)).toNat * (lane 8 b (2 * i)).toInt +
      (lane 8 a (2 * i + 1)).toNat * (lane 8 b (2 * i + 1)).toInt)

/-- `madd_epi16`: the products of the signed 16-bit lanes, added in pairs. -/
def maddEpi16 (a b : BitVec n) : BitVec n :=
  ofLanes n fun i =>
    (lane 16 a (2 * i)).signExtend 32 * (lane 16 b (2 * i)).signExtend 32 +
      (lane 16 a (2 * i + 1)).signExtend 32 * (lane 16 b (2 * i + 1)).signExtend 32

/-- `_mm256_permutevar8x32_epi32`: the 32-bit lanes that the low three bits of `idx` select. -/
def permutevar8x32Epi32 (a idx : M256i) : M256i :=
  ofLanes 256 fun i => lane 32 a (lane 32 idx i &&& 7).toNat

/-- `testz`: whether no bit is set in both. -/
def testz (a b : BitVec n) : Bool := a &&& b == 0

/-! ## Memory -/

/-- `loadu` from index `s`. -/
def loadu (n : Nat) (src : List Byte) (s : Nat) : Option (BitVec n) :=
  if s + n / 8 ≤ src.length then some (ofLanes n fun i => src.getD (s + i) 0) else none

/-- `storeu` to index `d`. -/
def storeu (d : Nat) (v : BitVec n) (buf : OutBuf Byte) : OutBuf Byte :=
  buf.storeList d (toList 8 v (n / 8))

/-- `stream` to index `d` of the memory at address `dst`. -/
def stream (dst d : Nat) (v : BitVec n) (buf : OutBuf Byte) : Option (OutBuf Byte) :=
  if (dst + d) % (n / 8) = 0 then some (storeu d v buf) else none

/-! ## Lanes -/

theorem lane_set1Epi8 {c : BitVec 8} {i : Nat} (hi : 8 * (i + 1) ≤ n) :
    lane 8 (set1Epi8 n c) i = c :=
  lane_ofLanes hi

theorem lane_set1Epi32 {w k : Nat} {c : BitVec 32} {q j : Nat} (hq : 32 * (q + 1) ≤ n)
    (hwk : w * k = 32) (hj : j < k) : lane w (set1Epi32 n c) (k * q + j) = lane w c j := by
  have hlane : lane 32 (set1Epi32 n c) q = c := lane_ofLanes hq
  have hcut := lane_lane (w := w) (set1Epi32 n c) (i := q) hj
  rw [← hcut, hwk, hlane]

theorem lane_setrEpi8 {cs : List (BitVec 8)} {i : Nat} (hi : 8 * (i + 1) ≤ n) :
    lane 8 (setrEpi8 n cs) i = cs.getD i 0 :=
  lane_ofLanes hi

theorem lane_shuffleEpi8 {a b : BitVec n} {i : Nat} (hi : 8 * (i + 1) ≤ n) :
    lane 8 (shuffleEpi8 a b) i = if (lane 8 b i).msb then 0
      else lane 8 a (16 * (i / 16) + (lane 8 b i &&& 0x0f).toNat) :=
  lane_ofLanes hi

theorem lane_shuffleEpi8_setrEpi8 {a : BitVec n} {cs : List (BitVec 8)} {i : Nat}
    (hi : 8 * (i + 1) ≤ n) (hmsb : (cs.getD i 0).msb = false) :
    lane 8 (shuffleEpi8 a (setrEpi8 n cs)) i =
      lane 8 a (16 * (i / 16) + (cs.getD i 0 &&& 0x0f).toNat) := by
  rw [lane_shuffleEpi8 hi, lane_setrEpi8 hi, hmsb]
  rfl

theorem lane_maddubsEpi16 {a b : BitVec n} {i : Nat} (hi : 16 * (i + 1) ≤ n) :
    lane 16 (maddubsEpi16 a b) i =
      saturate16 ((lane 8 a (2 * i)).toNat * (lane 8 b (2 * i)).toInt +
        (lane 8 a (2 * i + 1)).toNat * (lane 8 b (2 * i + 1)).toInt) :=
  lane_ofLanes hi

theorem lane_maddEpi16 {a b : BitVec n} {i : Nat} (hi : 32 * (i + 1) ≤ n) :
    lane 32 (maddEpi16 a b) i =
      (lane 16 a (2 * i)).signExtend 32 * (lane 16 b (2 * i)).signExtend 32 +
        (lane 16 a (2 * i + 1)).signExtend 32 * (lane 16 b (2 * i + 1)).signExtend 32 :=
  lane_ofLanes hi

theorem lane_permutevar8x32Epi32 {a : M256i} {cs : List (BitVec 32)} {i : Nat} (hi : i < 32) :
    lane 8 (permutevar8x32Epi32 a (setrEpi32 cs)) i =
      lane 8 a (4 * (cs.getD (i / 4) 0 &&& 7).toNat + i % 4) := by
  have hmod : i % 4 < 4 := Nat.mod_lt i (by decide)
  have hdword : 32 * (i / 4 + 1) ≤ 256 := by omega
  have hidx : lane 32 (setrEpi32 cs) (i / 4) = cs.getD (i / 4) 0 := lane_ofLanes hdword
  have hsrc : lane 32 (permutevar8x32Epi32 a (setrEpi32 cs)) (i / 4) =
      lane 32 a (lane 32 (setrEpi32 cs) (i / 4) &&& 7).toNat := lane_ofLanes hdword
  have hout := lane_lane (w := 8) (permutevar8x32Epi32 a (setrEpi32 cs)) (i := i / 4) hmod
  have hin := lane_lane (w := 8) a (i := (cs.getD (i / 4) 0 &&& 7).toNat) hmod
  rw [Nat.div_add_mod] at hout
  rw [← hout, ← hin, ← hidx]
  exact congrArg (lane 8 · (i % 4)) hsrc

/-- A table that is the same in each 128-bit lane. -/
def LaneTable (table : BitVec n) (entries : List Byte) : Prop :=
  ∀ i j, j < 16 → 8 * (16 * i + j + 1) ≤ n → lane 8 table (16 * i + j) = entries.getD j 0

theorem laneTable_one (entries : List Byte) : LaneTable (setrEpi8 128 entries) entries := by
  intro i j hj hi
  obtain rfl : i = 0 := by omega
  rw [lane_setrEpi8 hi]
  simp

theorem laneTable_two (entries : List Byte) (hlen : entries.length = 16) :
    LaneTable (setrEpi8 256 (entries ++ entries)) entries := by
  intro i j hj hi
  rw [lane_setrEpi8 hi, List.getD_eq_getElem?_getD, List.getD_eq_getElem?_getD]
  obtain rfl | rfl : i = 0 ∨ i = 1 := by omega
  · rw [List.getElem?_append_left (by omega)]
    simp
  · rw [List.getElem?_append_right (by omega), hlen]
    simp

theorem lane_loaded {src : List Byte} {s i : Nat} (hi : 8 * (i + 1) ≤ n) :
    lane 8 (ofLanes n fun i => src.getD (s + i) 0) i = src.getD (s + i) 0 :=
  lane_ofLanes hi

theorem loadu_of_le {src : List Byte} {s : Nat} (h : s + n / 8 ≤ src.length) :
    loadu n src s = some (ofLanes n fun i => src.getD (s + i) 0) :=
  if_pos h

end X86

end Libb64
