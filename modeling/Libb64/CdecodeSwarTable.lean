import Mathlib.Data.List.Basic
import Libb64.Target

/-!
# The quad decoding tables

`cdecode_swar_table.h`, entry for entry, and the generator the tables come from,
`tools/gen_dec4.c`. Each table holds the value of a character shifted to its place in a 24-bit
word; bytes outside the alphabet have bit 24 set.
-/

namespace Libb64

def b64Dec0 : List (BitVec 32) := [
  0x01000000, 0x01000000, 0x01000000, 0x01000000, 0x01000000,
  0x01000000, 0x01000000, 0x01000000, 0x01000000, 0x01000000,
  0x01000000, 0x01000000, 0x01000000, 0x01000000, 0x01000000,
  0x01000000, 0x01000000, 0x01000000, 0x01000000, 0x01000000,
  0x01000000, 0x01000000, 0x01000000, 0x01000000, 0x01000000,
  0x01000000, 0x01000000, 0x01000000, 0x01000000, 0x01000000,
  0x01000000, 0x01000000, 0x01000000, 0x01000000, 0x01000000,
  0x01000000, 0x01000000, 0x01000000, 0x01000000, 0x01000000,
  0x01000000, 0x01000000, 0x01000000, 0x00f80000, 0x01000000,
  0x01000000, 0x01000000, 0x00fc0000, 0x00d00000, 0x00d40000,
  0x00d80000, 0x00dc0000, 0x00e00000, 0x00e40000, 0x00e80000,
  0x00ec0000, 0x00f00000, 0x00f40000, 0x01000000, 0x01000000,
  0x01000000, 0x01000000, 0x01000000, 0x01000000, 0x01000000,
  0x00000000, 0x00040000, 0x00080000, 0x000c0000, 0x00100000,
  0x00140000, 0x00180000, 0x001c0000, 0x00200000, 0x00240000,
  0x00280000, 0x002c0000, 0x00300000, 0x00340000, 0x00380000,
  0x003c0000, 0x00400000, 0x00440000, 0x00480000, 0x004c0000,
  0x00500000, 0x00540000, 0x00580000, 0x005c0000, 0x00600000,
  0x00640000, 0x01000000, 0x01000000, 0x01000000, 0x01000000,
  0x01000000, 0x01000000, 0x00680000, 0x006c0000, 0x00700000,
  0x00740000, 0x00780000, 0x007c0000, 0x00800000, 0x00840000,
  0x00880000, 0x008c0000, 0x00900000, 0x00940000, 0x00980000,
  0x009c0000, 0x00a00000, 0x00a40000, 0x00a80000, 0x00ac0000,
  0x00b00000, 0x00b40000, 0x00b80000, 0x00bc0000, 0x00c00000,
  0x00c40000, 0x00c80000, 0x00cc0000, 0x01000000, 0x01000000,
  0x01000000, 0x01000000, 0x01000000, 0x01000000, 0x01000000,
  0x01000000, 0x01000000, 0x01000000, 0x01000000, 0x01000000,
  0x01000000, 0x01000000, 0x01000000, 0x01000000, 0x01000000,
  0x01000000, 0x01000000, 0x01000000, 0x01000000, 0x01000000,
  0x01000000, 0x01000000, 0x01000000, 0x01000000, 0x01000000,
  0x01000000, 0x01000000, 0x01000000, 0x01000000, 0x01000000,
  0x01000000, 0x01000000, 0x01000000, 0x01000000, 0x01000000,
  0x01000000, 0x01000000, 0x01000000, 0x01000000, 0x01000000,
  0x01000000, 0x01000000, 0x01000000, 0x01000000, 0x01000000,
  0x01000000, 0x01000000, 0x01000000, 0x01000000, 0x01000000,
  0x01000000, 0x01000000, 0x01000000, 0x01000000, 0x01000000,
  0x01000000, 0x01000000, 0x01000000, 0x01000000, 0x01000000,
  0x01000000, 0x01000000, 0x01000000, 0x01000000, 0x01000000,
  0x01000000, 0x01000000, 0x01000000, 0x01000000, 0x01000000,
  0x01000000, 0x01000000, 0x01000000, 0x01000000, 0x01000000,
  0x01000000, 0x01000000, 0x01000000, 0x01000000, 0x01000000,
  0x01000000, 0x01000000, 0x01000000, 0x01000000, 0x01000000,
  0x01000000, 0x01000000, 0x01000000, 0x01000000, 0x01000000,
  0x01000000, 0x01000000, 0x01000000, 0x01000000, 0x01000000,
  0x01000000, 0x01000000, 0x01000000, 0x01000000, 0x01000000,
  0x01000000, 0x01000000, 0x01000000, 0x01000000, 0x01000000,
  0x01000000, 0x01000000, 0x01000000, 0x01000000, 0x01000000,
  0x01000000, 0x01000000, 0x01000000, 0x01000000, 0x01000000,
  0x01000000, 0x01000000, 0x01000000, 0x01000000, 0x01000000,
  0x01000000, 0x01000000, 0x01000000, 0x01000000, 0x01000000,
  0x01000000, 0x01000000, 0x01000000, 0x01000000, 0x01000000,
  0x01000000]

def b64Dec1 : List (BitVec 32) := [
  0x01000000, 0x01000000, 0x01000000, 0x01000000, 0x01000000,
  0x01000000, 0x01000000, 0x01000000, 0x01000000, 0x01000000,
  0x01000000, 0x01000000, 0x01000000, 0x01000000, 0x01000000,
  0x01000000, 0x01000000, 0x01000000, 0x01000000, 0x01000000,
  0x01000000, 0x01000000, 0x01000000, 0x01000000, 0x01000000,
  0x01000000, 0x01000000, 0x01000000, 0x01000000, 0x01000000,
  0x01000000, 0x01000000, 0x01000000, 0x01000000, 0x01000000,
  0x01000000, 0x01000000, 0x01000000, 0x01000000, 0x01000000,
  0x01000000, 0x01000000, 0x01000000, 0x0003e000, 0x01000000,
  0x01000000, 0x01000000, 0x0003f000, 0x00034000, 0x00035000,
  0x00036000, 0x00037000, 0x00038000, 0x00039000, 0x0003a000,
  0x0003b000, 0x0003c000, 0x0003d000, 0x01000000, 0x01000000,
  0x01000000, 0x01000000, 0x01000000, 0x01000000, 0x01000000,
  0x00000000, 0x00001000, 0x00002000, 0x00003000, 0x00004000,
  0x00005000, 0x00006000, 0x00007000, 0x00008000, 0x00009000,
  0x0000a000, 0x0000b000, 0x0000c000, 0x0000d000, 0x0000e000,
  0x0000f000, 0x00010000, 0x00011000, 0x00012000, 0x00013000,
  0x00014000, 0x00015000, 0x00016000, 0x00017000, 0x00018000,
  0x00019000, 0x01000000, 0x01000000, 0x01000000, 0x01000000,
  0x01000000, 0x01000000, 0x0001a000, 0x0001b000, 0x0001c000,
  0x0001d000, 0x0001e000, 0x0001f000, 0x00020000, 0x00021000,
  0x00022000, 0x00023000, 0x00024000, 0x00025000, 0x00026000,
  0x00027000, 0x00028000, 0x00029000, 0x0002a000, 0x0002b000,
  0x0002c000, 0x0002d000, 0x0002e000, 0x0002f000, 0x00030000,
  0x00031000, 0x00032000, 0x00033000, 0x01000000, 0x01000000,
  0x01000000, 0x01000000, 0x01000000, 0x01000000, 0x01000000,
  0x01000000, 0x01000000, 0x01000000, 0x01000000, 0x01000000,
  0x01000000, 0x01000000, 0x01000000, 0x01000000, 0x01000000,
  0x01000000, 0x01000000, 0x01000000, 0x01000000, 0x01000000,
  0x01000000, 0x01000000, 0x01000000, 0x01000000, 0x01000000,
  0x01000000, 0x01000000, 0x01000000, 0x01000000, 0x01000000,
  0x01000000, 0x01000000, 0x01000000, 0x01000000, 0x01000000,
  0x01000000, 0x01000000, 0x01000000, 0x01000000, 0x01000000,
  0x01000000, 0x01000000, 0x01000000, 0x01000000, 0x01000000,
  0x01000000, 0x01000000, 0x01000000, 0x01000000, 0x01000000,
  0x01000000, 0x01000000, 0x01000000, 0x01000000, 0x01000000,
  0x01000000, 0x01000000, 0x01000000, 0x01000000, 0x01000000,
  0x01000000, 0x01000000, 0x01000000, 0x01000000, 0x01000000,
  0x01000000, 0x01000000, 0x01000000, 0x01000000, 0x01000000,
  0x01000000, 0x01000000, 0x01000000, 0x01000000, 0x01000000,
  0x01000000, 0x01000000, 0x01000000, 0x01000000, 0x01000000,
  0x01000000, 0x01000000, 0x01000000, 0x01000000, 0x01000000,
  0x01000000, 0x01000000, 0x01000000, 0x01000000, 0x01000000,
  0x01000000, 0x01000000, 0x01000000, 0x01000000, 0x01000000,
  0x01000000, 0x01000000, 0x01000000, 0x01000000, 0x01000000,
  0x01000000, 0x01000000, 0x01000000, 0x01000000, 0x01000000,
  0x01000000, 0x01000000, 0x01000000, 0x01000000, 0x01000000,
  0x01000000, 0x01000000, 0x01000000, 0x01000000, 0x01000000,
  0x01000000, 0x01000000, 0x01000000, 0x01000000, 0x01000000,
  0x01000000, 0x01000000, 0x01000000, 0x01000000, 0x01000000,
  0x01000000, 0x01000000, 0x01000000, 0x01000000, 0x01000000,
  0x01000000]

def b64Dec2 : List (BitVec 32) := [
  0x01000000, 0x01000000, 0x01000000, 0x01000000, 0x01000000,
  0x01000000, 0x01000000, 0x01000000, 0x01000000, 0x01000000,
  0x01000000, 0x01000000, 0x01000000, 0x01000000, 0x01000000,
  0x01000000, 0x01000000, 0x01000000, 0x01000000, 0x01000000,
  0x01000000, 0x01000000, 0x01000000, 0x01000000, 0x01000000,
  0x01000000, 0x01000000, 0x01000000, 0x01000000, 0x01000000,
  0x01000000, 0x01000000, 0x01000000, 0x01000000, 0x01000000,
  0x01000000, 0x01000000, 0x01000000, 0x01000000, 0x01000000,
  0x01000000, 0x01000000, 0x01000000, 0x00000f80, 0x01000000,
  0x01000000, 0x01000000, 0x00000fc0, 0x00000d00, 0x00000d40,
  0x00000d80, 0x00000dc0, 0x00000e00, 0x00000e40, 0x00000e80,
  0x00000ec0, 0x00000f00, 0x00000f40, 0x01000000, 0x01000000,
  0x01000000, 0x01000000, 0x01000000, 0x01000000, 0x01000000,
  0x00000000, 0x00000040, 0x00000080, 0x000000c0, 0x00000100,
  0x00000140, 0x00000180, 0x000001c0, 0x00000200, 0x00000240,
  0x00000280, 0x000002c0, 0x00000300, 0x00000340, 0x00000380,
  0x000003c0, 0x00000400, 0x00000440, 0x00000480, 0x000004c0,
  0x00000500, 0x00000540, 0x00000580, 0x000005c0, 0x00000600,
  0x00000640, 0x01000000, 0x01000000, 0x01000000, 0x01000000,
  0x01000000, 0x01000000, 0x00000680, 0x000006c0, 0x00000700,
  0x00000740, 0x00000780, 0x000007c0, 0x00000800, 0x00000840,
  0x00000880, 0x000008c0, 0x00000900, 0x00000940, 0x00000980,
  0x000009c0, 0x00000a00, 0x00000a40, 0x00000a80, 0x00000ac0,
  0x00000b00, 0x00000b40, 0x00000b80, 0x00000bc0, 0x00000c00,
  0x00000c40, 0x00000c80, 0x00000cc0, 0x01000000, 0x01000000,
  0x01000000, 0x01000000, 0x01000000, 0x01000000, 0x01000000,
  0x01000000, 0x01000000, 0x01000000, 0x01000000, 0x01000000,
  0x01000000, 0x01000000, 0x01000000, 0x01000000, 0x01000000,
  0x01000000, 0x01000000, 0x01000000, 0x01000000, 0x01000000,
  0x01000000, 0x01000000, 0x01000000, 0x01000000, 0x01000000,
  0x01000000, 0x01000000, 0x01000000, 0x01000000, 0x01000000,
  0x01000000, 0x01000000, 0x01000000, 0x01000000, 0x01000000,
  0x01000000, 0x01000000, 0x01000000, 0x01000000, 0x01000000,
  0x01000000, 0x01000000, 0x01000000, 0x01000000, 0x01000000,
  0x01000000, 0x01000000, 0x01000000, 0x01000000, 0x01000000,
  0x01000000, 0x01000000, 0x01000000, 0x01000000, 0x01000000,
  0x01000000, 0x01000000, 0x01000000, 0x01000000, 0x01000000,
  0x01000000, 0x01000000, 0x01000000, 0x01000000, 0x01000000,
  0x01000000, 0x01000000, 0x01000000, 0x01000000, 0x01000000,
  0x01000000, 0x01000000, 0x01000000, 0x01000000, 0x01000000,
  0x01000000, 0x01000000, 0x01000000, 0x01000000, 0x01000000,
  0x01000000, 0x01000000, 0x01000000, 0x01000000, 0x01000000,
  0x01000000, 0x01000000, 0x01000000, 0x01000000, 0x01000000,
  0x01000000, 0x01000000, 0x01000000, 0x01000000, 0x01000000,
  0x01000000, 0x01000000, 0x01000000, 0x01000000, 0x01000000,
  0x01000000, 0x01000000, 0x01000000, 0x01000000, 0x01000000,
  0x01000000, 0x01000000, 0x01000000, 0x01000000, 0x01000000,
  0x01000000, 0x01000000, 0x01000000, 0x01000000, 0x01000000,
  0x01000000, 0x01000000, 0x01000000, 0x01000000, 0x01000000,
  0x01000000, 0x01000000, 0x01000000, 0x01000000, 0x01000000,
  0x01000000, 0x01000000, 0x01000000, 0x01000000, 0x01000000,
  0x01000000]

def b64Dec3 : List (BitVec 32) := [
  0x01000000, 0x01000000, 0x01000000, 0x01000000, 0x01000000,
  0x01000000, 0x01000000, 0x01000000, 0x01000000, 0x01000000,
  0x01000000, 0x01000000, 0x01000000, 0x01000000, 0x01000000,
  0x01000000, 0x01000000, 0x01000000, 0x01000000, 0x01000000,
  0x01000000, 0x01000000, 0x01000000, 0x01000000, 0x01000000,
  0x01000000, 0x01000000, 0x01000000, 0x01000000, 0x01000000,
  0x01000000, 0x01000000, 0x01000000, 0x01000000, 0x01000000,
  0x01000000, 0x01000000, 0x01000000, 0x01000000, 0x01000000,
  0x01000000, 0x01000000, 0x01000000, 0x0000003e, 0x01000000,
  0x01000000, 0x01000000, 0x0000003f, 0x00000034, 0x00000035,
  0x00000036, 0x00000037, 0x00000038, 0x00000039, 0x0000003a,
  0x0000003b, 0x0000003c, 0x0000003d, 0x01000000, 0x01000000,
  0x01000000, 0x01000000, 0x01000000, 0x01000000, 0x01000000,
  0x00000000, 0x00000001, 0x00000002, 0x00000003, 0x00000004,
  0x00000005, 0x00000006, 0x00000007, 0x00000008, 0x00000009,
  0x0000000a, 0x0000000b, 0x0000000c, 0x0000000d, 0x0000000e,
  0x0000000f, 0x00000010, 0x00000011, 0x00000012, 0x00000013,
  0x00000014, 0x00000015, 0x00000016, 0x00000017, 0x00000018,
  0x00000019, 0x01000000, 0x01000000, 0x01000000, 0x01000000,
  0x01000000, 0x01000000, 0x0000001a, 0x0000001b, 0x0000001c,
  0x0000001d, 0x0000001e, 0x0000001f, 0x00000020, 0x00000021,
  0x00000022, 0x00000023, 0x00000024, 0x00000025, 0x00000026,
  0x00000027, 0x00000028, 0x00000029, 0x0000002a, 0x0000002b,
  0x0000002c, 0x0000002d, 0x0000002e, 0x0000002f, 0x00000030,
  0x00000031, 0x00000032, 0x00000033, 0x01000000, 0x01000000,
  0x01000000, 0x01000000, 0x01000000, 0x01000000, 0x01000000,
  0x01000000, 0x01000000, 0x01000000, 0x01000000, 0x01000000,
  0x01000000, 0x01000000, 0x01000000, 0x01000000, 0x01000000,
  0x01000000, 0x01000000, 0x01000000, 0x01000000, 0x01000000,
  0x01000000, 0x01000000, 0x01000000, 0x01000000, 0x01000000,
  0x01000000, 0x01000000, 0x01000000, 0x01000000, 0x01000000,
  0x01000000, 0x01000000, 0x01000000, 0x01000000, 0x01000000,
  0x01000000, 0x01000000, 0x01000000, 0x01000000, 0x01000000,
  0x01000000, 0x01000000, 0x01000000, 0x01000000, 0x01000000,
  0x01000000, 0x01000000, 0x01000000, 0x01000000, 0x01000000,
  0x01000000, 0x01000000, 0x01000000, 0x01000000, 0x01000000,
  0x01000000, 0x01000000, 0x01000000, 0x01000000, 0x01000000,
  0x01000000, 0x01000000, 0x01000000, 0x01000000, 0x01000000,
  0x01000000, 0x01000000, 0x01000000, 0x01000000, 0x01000000,
  0x01000000, 0x01000000, 0x01000000, 0x01000000, 0x01000000,
  0x01000000, 0x01000000, 0x01000000, 0x01000000, 0x01000000,
  0x01000000, 0x01000000, 0x01000000, 0x01000000, 0x01000000,
  0x01000000, 0x01000000, 0x01000000, 0x01000000, 0x01000000,
  0x01000000, 0x01000000, 0x01000000, 0x01000000, 0x01000000,
  0x01000000, 0x01000000, 0x01000000, 0x01000000, 0x01000000,
  0x01000000, 0x01000000, 0x01000000, 0x01000000, 0x01000000,
  0x01000000, 0x01000000, 0x01000000, 0x01000000, 0x01000000,
  0x01000000, 0x01000000, 0x01000000, 0x01000000, 0x01000000,
  0x01000000, 0x01000000, 0x01000000, 0x01000000, 0x01000000,
  0x01000000, 0x01000000, 0x01000000, 0x01000000, 0x01000000,
  0x01000000, 0x01000000, 0x01000000, 0x01000000, 0x01000000,
  0x01000000]

/-- The generator's value of a character: 0 to 63, or -1 outside the alphabet. -/
def valueOf (c : Int) : Int :=
  if c ≥ 'A'.toNat ∧ c ≤ 'Z'.toNat then c - 'A'.toNat
  else if c ≥ 'a'.toNat ∧ c ≤ 'z'.toNat then c - 'a'.toNat + 26
  else if c ≥ '0'.toNat ∧ c ≤ '9'.toNat then c - '0'.toNat + 52
  else if c = '+'.toNat then 62
  else if c = '/'.toNat then 63
  else -1

/-- The entry the generator emits for byte `i` in the table with the given shift. -/
def emitEntry (shift i : Nat) : BitVec 32 :=
  let v := valueOf i
  if v < 0 then 0x01000000 else BitVec.ofInt 32 v <<< shift

/-- The tables are what their generator prints. -/
theorem b64Dec_eq :
    b64Dec0 = (List.range 256).map (emitEntry 18) ∧
    b64Dec1 = (List.range 256).map (emitEntry 12) ∧
    b64Dec2 = (List.range 256).map (emitEntry 6) ∧
    b64Dec3 = (List.range 256).map (emitEntry 0) := by
  decide +kernel

end Libb64
