import Libb64.Lib.Lanes
import Libb64.Lib.OutBuf
import Libb64.Target

/-!
# The NEON intrinsics of the bulk kernels

The documented operations, on a little-endian target, where `vreinterpretq` changes nothing. Where
the source writes an operation for lanes of 8, 16 and 32 bits, it is one function of the lane's
width `w`. A table lookup yields 0 for an index outside its table. As on x86, a load that reaches
past the end of the source is a fault.
-/

namespace Libb64

open Lanes

/-- `uint8x16_t` -/
abbrev U8x16 := BitVec 128

/-- `uint8x8_t` -/
abbrev U8x8 := BitVec 64

/-- The two instruction sets that `arm_neon.h` is used on. -/
inductive NeonIsa where
  | aarch64
  | armv7
deriving DecidableEq, Repr

namespace Neon

variable {w : Nat}

/-! ## Lanewise operations -/

def vdupqN (c : BitVec w) : U8x16 := ofLanes 128 fun _ => c

def vshrqN (w : Nat) (a : U8x16) (count : Nat) : U8x16 := map w (fun a => a >>> count) a

def vshlqN (w : Nat) (a : U8x16) (count : Nat) : U8x16 := map w (fun a => a <<< count) a

def vaddqU8 : U8x16 → U8x16 → U8x16 := zip 8 fun a b => a + b

def vsubqU8 : U8x16 → U8x16 → U8x16 := zip 8 fun a b => a - b

/-- `vqsubq_u8`: with saturation at 0. -/
def vqsubqU8 : U8x16 → U8x16 → U8x16 := zip 8 fun a b => if a < b then 0 else a - b

def vcgtqU8 : U8x16 → U8x16 → U8x16 := zip 8 fun a b => if b < a then 0xff else 0

def vceqqU8 : U8x16 → U8x16 → U8x16 := zip 8 fun a b => if a = b then 0xff else 0

/-! ## Halves and tables -/

def vgetLowU8 (a : U8x16) : U8x8 := lane 64 a 0

def vgetHighU8 (a : U8x16) : U8x8 := lane 64 a 1

def vcombineU8 (low high : U8x8) : U8x16 := high ++ low

/-- `vtbl2_u8`: lookups in a table of two half registers. -/
def vtbl2U8 (table0 table1 : U8x8) (idx : U8x8) : U8x8 :=
  map 8 (fun i => if i.toNat < 16 then lane 8 (vcombineU8 table0 table1) i.toNat else 0) idx

/-- `vqtbl1q_u8`: lookups in a table of one register. -/
def vqtbl1qU8 (table idx : U8x16) : U8x16 :=
  map 8 (fun i => if i.toNat < 16 then lane 8 table i.toNat else 0) idx

/-- `vqtbl4q_u8`: lookups in a table of four registers. -/
def vqtbl4qU8 (table : Nat → U8x16) (idx : U8x16) : U8x16 :=
  map 8 (fun i => if i.toNat < 64 then lane 8 (table (i.toNat / 16)) (i.toNat % 16) else 0) idx

def vgetqLaneU64 (a : U8x16) (i : Nat) : BitVec 64 := lane 64 a i

/-! ## Memory -/

/-- `vld1q_u8` of a constant table, from its entry `s` on. -/
def tableQ (table : List Byte) (s : Nat) : U8x16 := ofLanes 128 fun i => table.getD (s + i) 0

/-- `vld1_u8` of a constant table, from its entry `s` on. -/
def tableD (table : List Byte) (s : Nat) : U8x8 := ofLanes 64 fun i => table.getD (s + i) 0

/-- `vld1q_u8` from index `s`. -/
def vld1qU8 (src : List Byte) (s : Nat) : Option U8x16 :=
  if s + 16 ≤ src.length then some (ofLanes 128 fun i => src.getD (s + i) 0) else none

/-- `vld3q_u8` from index `s`: the bytes are dealt out to three registers in turn. -/
def vld3qU8 (src : List Byte) (s : Nat) : Option (U8x16 × U8x16 × U8x16) :=
  if s + 48 ≤ src.length then
    let val (k : Nat) : U8x16 := ofLanes 128 fun i => src.getD (s + (3 * i + k)) 0
    some (val 0, val 1, val 2)
  else
    none

/-- `vst4q_u8` to index `d`: the bytes are taken from four registers in turn. -/
def vst4qU8 (d : Nat) (val : Nat → U8x16) (buf : OutBuf Byte) : OutBuf Byte :=
  buf.storeList d ((List.range 16).flatMap fun i => (List.range 4).map fun k => lane 8 (val k) i)

/-! ## Lanes -/

theorem lane_vdupqN {c : BitVec w} {i : Nat} (hi : w * (i + 1) ≤ 128) :
    lane w (vdupqN c) i = c :=
  lane_ofLanes hi

theorem lane_vshrqN {a : U8x16} {count i : Nat} (hi : w * (i + 1) ≤ 128) :
    lane w (vshrqN w a count) i = lane w a i >>> count :=
  lane_map hi

theorem lane_vshlqN {a : U8x16} {count i : Nat} (hi : w * (i + 1) ≤ 128) :
    lane w (vshlqN w a count) i = lane w a i <<< count :=
  lane_map hi

theorem lane_vqtbl1qU8 {table idx : U8x16} {i : Nat} (hi : i < 16) :
    lane 8 (vqtbl1qU8 table idx) i =
      if (lane 8 idx i).toNat < 16 then lane 8 table (lane 8 idx i).toNat else 0 :=
  lane_map (by omega)

theorem lane_tableQ {table : List Byte} {s i : Nat} (hi : i < 16) :
    lane 8 (tableQ table s) i = table.getD (s + i) 0 :=
  lane_ofLanes (by omega)

theorem vgetLowU8_tableQ (table : List Byte) (s : Nat) :
    vgetLowU8 (tableQ table s) = tableD table s := by
  apply ext_lane (w := 8) (k := 8)
  intro i hi
  have hhalf := lane_lane (w := 8) (tableQ table s) (k := 8) (i := 0) hi
  have hentry : lane 8 (tableD table s) i = table.getD (s + i) 0 := lane_ofLanes (by omega)
  rw [Nat.mul_zero, Nat.zero_add, lane_tableQ (by omega)] at hhalf
  rw [hentry]
  exact hhalf

theorem vgetHighU8_tableQ (table : List Byte) (s : Nat) :
    vgetHighU8 (tableQ table s) = tableD table (s + 8) := by
  apply ext_lane (w := 8) (k := 8)
  intro i hi
  have hhalf := lane_lane (w := 8) (tableQ table s) (k := 8) (i := 1) hi
  have hentry : lane 8 (tableD table (s + 8)) i = table.getD (s + 8 + i) 0 :=
    lane_ofLanes (by omega)
  rw [lane_tableQ (by omega), Nat.mul_one, ← Nat.add_assoc] at hhalf
  rw [hentry]
  exact hhalf

theorem vcombineU8_halves (a : U8x16) : vcombineU8 (vgetLowU8 a) (vgetHighU8 a) = a := by
  have hall := lane_halves 64 a 0
  have hself : lane (64 + 64) a 0 = a := by
    apply BitVec.eq_of_getLsbD_eq
    intro b hb
    rw [getLsbD_lane hb, Nat.mul_zero, Nat.zero_add]
  rw [hself] at hall
  exact hall.symm

theorem lane_vcombineU8 {low high : U8x8} {i : Nat} (hi : i < 8) :
    lane 8 (vcombineU8 low high) i = lane 8 low i ∧
      lane 8 (vcombineU8 low high) (8 + i) = lane 8 high i := by
  constructor <;> apply BitVec.eq_of_getLsbD_eq <;> intro b hb
  · rw [getLsbD_lane hb, getLsbD_lane hb, vcombineU8, BitVec.getLsbD_append, if_pos (by omega)]
  · rw [getLsbD_lane hb, getLsbD_lane hb, vcombineU8, BitVec.getLsbD_append, if_neg (by omega)]
    congr 1
    omega

/-- On ARMv7, lookups in the halves of a table by the halves of the indices are a lookup in the
whole table. -/
theorem vtbl2U8_halves (table idx : U8x16) :
    vcombineU8 (vtbl2U8 (vgetLowU8 table) (vgetHighU8 table) (vgetLowU8 idx))
      (vtbl2U8 (vgetLowU8 table) (vgetHighU8 table) (vgetHighU8 idx)) =
    vqtbl1qU8 table idx := by
  have hlow : ∀ i < 8, lane 8 (vgetLowU8 idx) i = lane 8 idx i := by
    intro i hi
    have hhalf := lane_lane (w := 8) idx (k := 8) (i := 0) hi
    rwa [Nat.mul_zero, Nat.zero_add] at hhalf
  have hhigh : ∀ i < 8, lane 8 (vgetHighU8 idx) i = lane 8 idx (8 + i) :=
    fun i hi => lane_lane (w := 8) idx (k := 8) (i := 1) hi
  apply ext_lane (w := 8) (k := 16)
  intro i hi
  rw [lane_vqtbl1qU8 hi]
  by_cases h : i < 8
  · rw [(lane_vcombineU8 h).1, vtbl2U8, lane_map (by omega), hlow i h, vcombineU8_halves]
  · obtain ⟨j, rfl⟩ : ∃ j, i = 8 + j := ⟨i - 8, by omega⟩
    rw [(lane_vcombineU8 (by omega)).2, vtbl2U8, lane_map (by omega), hhigh j (by omega),
      vcombineU8_halves]

end Neon

end Libb64
