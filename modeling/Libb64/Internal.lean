import Libb64.Rfc4648

/-!
# The bulk kernels' contract

`b64_internal.h` declares two functions that a build may implement with SIMD instructions. What
the dispatching block functions rely on is their contract; each call of one may be served by any
function that meets it.
-/

namespace Libb64

/-- `base64_encode_bulk_simd`: encodes whole 3-byte groups from the front of the source and returns
the number of bytes consumed, a multiple of 3, or 0. -/
structure Base64EncodeBulkSimd where
  consumed : List Byte → Nat
  dst : List Byte → List Byte
  consumed_le : ∀ src, consumed src ≤ src.length
  three_dvd : ∀ src, 3 ∣ consumed src
  dst_eq : ∀ src, dst src = Rfc4648.encode (src.take (consumed src))

/-- `base64_decode_bulk_simd`: decodes clean 4-character groups from the front of the source, writes
their bytes and returns the number of characters consumed, a multiple of 4, or 0. -/
structure Base64DecodeBulkSimd where
  consumed : List Byte → Nat
  dst : List Byte → List Byte
  consumed_le : ∀ src, consumed src ≤ src.length
  four_dvd : ∀ src, 4 ∣ consumed src
  clean : ∀ (src : List Byte), ∀ c ∈ src.take (consumed src), Rfc4648.inAlphabet c = true
  dst_eq : ∀ src, dst src = Rfc4648.decode (src.take (consumed src))

/-- `cencode_simd_none.c` -/
def encodeSimdNone : Base64EncodeBulkSimd where
  consumed _ := 0
  dst _ := []
  consumed_le _ := Nat.zero_le _
  three_dvd _ := Nat.dvd_zero 3
  dst_eq _ := by rw [List.take_zero, Rfc4648.encode_nil]

/-- `cdecode_simd_none.c` -/
def decodeSimdNone : Base64DecodeBulkSimd where
  consumed _ := 0
  dst _ := []
  consumed_le _ := Nat.zero_le _
  four_dvd _ := Nat.dvd_zero 4
  clean _ _ h := by simp at h
  dst_eq _ := by rw [List.take_zero, Rfc4648.decode_nil]

end Libb64
