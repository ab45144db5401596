import Mathlib.Order.Bounds.Basic
import Libb64.Verify.EncodeSimd
import Libb64.Verify.DecodeSimd

/-!
# The bulk functions of a build

On x86 the bulk functions call the kernel that the CPU supports, on ARM the NEON kernel, each with
the whole of what is left. They meet the contract that the block functions are verified against,
so everything proved about these for any bulk function holds with these ones.
-/

namespace Libb64

open Rfc4648

/-- A kernel, given all of the source and the memory of the destination. -/
abbrev Kernel := List Byte → OutBuf Byte → Option (Nat × OutBuf Byte)

/-- The count that a kernel returns. -/
def Kernel.consumed (kernel : Kernel) (src : List Byte) : Nat :=
  ((kernel src (.fresh fun _ => 0)).map Prod.fst).getD 0

/-- What a kernel writes to the first `k` places. -/
def Kernel.written (kernel : Kernel) (src : List Byte) (k : Nat) : List Byte :=
  ((kernel src (.fresh fun _ => 0)).map fun r => r.2.slice 0 k).getD []

section Encode

variable {kernel : Kernel}

/-- A kernel that encodes what it consumes. -/
def Kernel.Encodes (kernel : Kernel) : Prop :=
  ∀ src, ∃ n, ∀ buf, BulkEncoded src buf n (kernel src buf)

theorem Kernel.Encodes.spec (h : kernel.Encodes) (src : List Byte) (buf : OutBuf Byte) :
    BulkEncoded src buf (kernel.consumed src) (kernel src buf) ∧
      kernel.written src (kernel.consumed src / 3 * 4) =
        encode (src.take (kernel.consumed src)) := by
  obtain ⟨n, hn⟩ := h src
  have hfresh := (hn (.fresh fun _ => 0)).result
  have hcount : kernel.consumed src = n := by
    rw [Kernel.consumed, hfresh]
    rfl
  refine ⟨hcount ▸ hn buf, ?_⟩
  have hlen := (hn buf).length
  rw [Kernel.written, hfresh, hcount, ← hlen, Option.map_some, Option.getD_some]
  exact OutBuf.slice_storeList ..

/-- Such a kernel as the bulk function of the encoder. -/
def Kernel.Encodes.bulk (h : kernel.Encodes) : Base64EncodeBulkSimd where
  consumed := kernel.consumed
  dst src := kernel.written src (kernel.consumed src / 3 * 4)
  consumed_le src := (h.spec src (.fresh fun _ => 0)).1.le
  three_dvd src := (h.spec src (.fresh fun _ => 0)).1.three_dvd
  dst_eq src := (h.spec src (.fresh fun _ => 0)).2

end Encode

section Decode

variable {kernel : Kernel}

/-- A kernel that decodes the clean blocks at the front. -/
def Kernel.Decodes (kernel : Kernel) (width : Nat) : Prop :=
  ∀ src buf, ∃ n, BulkDecoded width src buf n (kernel src buf)

variable {width : Nat}

theorem Kernel.Decodes.spec (h : kernel.Decodes width) (src : List Byte) (buf : OutBuf Byte) :
    BulkDecoded width src buf (kernel.consumed src) (kernel src buf) ∧
      kernel.written src (kernel.consumed src / 4 * 3) =
        decode (src.take (kernel.consumed src)) := by
  obtain ⟨n, hn⟩ := h src buf
  obtain ⟨m, hm⟩ := h src (.fresh fun _ => 0)
  obtain rfl : n = m := IsGreatest.unique hn.isGreatest hm.isGreatest
  have hcount : kernel.consumed src = n := by
    rw [Kernel.consumed, hm.result]
    rfl
  refine ⟨hcount ▸ hn, ?_⟩
  have hlen := hn.length
  rw [Kernel.written, hm.result, hcount, ← hlen, Option.map_some, Option.getD_some]
  exact OutBuf.slice_storeList ..

/-- Such a kernel as the bulk function of the decoder. -/
def Kernel.Decodes.bulk (h : kernel.Decodes width) (hwidth : 4 ∣ width) :
    Base64DecodeBulkSimd where
  consumed := kernel.consumed
  dst src := kernel.written src (kernel.consumed src / 4 * 3)
  consumed_le src := (h.spec src (.fresh fun _ => 0)).1.isGreatest.1.2.1
  four_dvd src := Nat.dvd_trans hwidth (h.spec src (.fresh fun _ => 0)).1.isGreatest.1.1
  clean src c hc :=
    (inAlphabet_iff c).mpr ((h.spec src (.fresh fun _ => 0)).1.isGreatest.1.2.2 c hc)
  dst_eq src := (h.spec src (.fresh fun _ => 0)).2

end Decode

/-! ## x86 -/

/-- `base64_encode_bulk_simd` on x86, with the output at address `dst`. -/
def encodeKernelX86 (cpu : X86Cpu) (dst : Nat) : Kernel :=
  fun src buf => encodeResolve cpu src src.length dst buf

/-- `base64_decode_bulk_simd` on x86 -/
def decodeKernelX86 (cpu : X86Cpu) : Kernel :=
  fun src buf => decodeResolve cpu src src.length buf

theorem encodeKernelX86_encodes (cpu : X86Cpu) (dst : Nat) : (encodeKernelX86 cpu dst).Encodes := by
  intro src
  simp only [encodeKernelX86, encodeResolve]
  split
  · exact ⟨_, encodeBulkAvx2_spec src dst⟩
  split
  · exact ⟨_, encodeBulkSse41_spec src dst⟩
  · refine ⟨0, fun buf => ⟨?_, Nat.zero_le _, Nat.dvd_zero 3, ?_, ?_⟩⟩
    · rw [List.take_zero, encode_nil]
      rfl
    · rw [List.take_zero, encode_nil]
      rfl
    · intro T s
      exact scalar_codeOut s (Nat.dvd_zero 3)

/-- The characters that the CPU's kernel takes come in blocks of this many. -/
def decodeWidthX86 (cpu : X86Cpu) : Nat := if cpu.hasAvx2 then 32 else 16

/-- Where there is a kernel, it decodes all clean blocks; otherwise nothing is decoded. -/
theorem decodeKernelX86_decodes {cpu : X86Cpu} (h : cpu.hasAvx2 = true ∨ cpu.hasSse41 = true) :
    (decodeKernelX86 cpu).Decodes (decodeWidthX86 cpu) := by
  intro src buf
  simp only [decodeKernelX86, decodeResolve, decodeWidthX86]
  split
  · exact decodeBulkAvx2_spec src buf
  · next hno =>
    rw [if_pos (h.resolve_left hno)]
    exact decodeBulkSse41_spec src buf

/-- **The bulk functions of an x86 build.** -/
def encodeSimdX86 (cpu : X86Cpu) (dst : Nat) : Base64EncodeBulkSimd :=
  (encodeKernelX86_encodes cpu dst).bulk

def decodeSimdX86 (cpu : X86Cpu) : Base64DecodeBulkSimd :=
  if h : cpu.hasAvx2 = true ∨ cpu.hasSse41 = true then
    (decodeKernelX86_decodes h).bulk (by
      unfold decodeWidthX86
      split
      · exact ⟨8, rfl⟩
      · exact ⟨4, rfl⟩)
  else
    decodeSimdNone

/-! ## NEON -/

/-- `base64_encode_bulk_simd` on ARM -/
def encodeKernelNeon (isa : NeonIsa) : Kernel :=
  fun src buf => encodeBulkNeon isa src src.length buf

/-- `base64_decode_bulk_simd` on ARM -/
def decodeKernelNeon (isa : NeonIsa) : Kernel :=
  fun src buf => decodeBulkNeon isa src src.length buf

theorem encodeKernelNeon_encodes (isa : NeonIsa) : (encodeKernelNeon isa).Encodes :=
  fun src => ⟨_, encodeBulkNeon_spec isa src⟩

theorem decodeKernelNeon_decodes (isa : NeonIsa) : (decodeKernelNeon isa).Decodes 16 :=
  decodeBulkNeon_spec isa

/-- **The bulk functions of an ARM build.** -/
def encodeSimdNeon (isa : NeonIsa) : Base64EncodeBulkSimd := (encodeKernelNeon_encodes isa).bulk

def decodeSimdNeon (isa : NeonIsa) : Base64DecodeBulkSimd :=
  (decodeKernelNeon_decodes isa).bulk ⟨4, rfl⟩

/-! ## What the kernels do -/

/-- **The x86 encode kernels** take twelve bytes while sixteen are left, or twenty-four while
thirty-two are left. They read nothing past the source and store the encoding of what they took,
wherever the output stands and whatever its length does to the stores. -/
theorem encode_bulk_x86 (src : List Byte) (dst : Nat) (buf : OutBuf Byte) :
    BulkEncoded src buf (12 * ((src.length - 4) / 12))
        (encodeBulkSse41 src src.length dst buf) ∧
      BulkEncoded src buf (24 * ((src.length - 8) / 24))
        (encodeBulkAvx2 src src.length dst buf) :=
  ⟨encodeBulkSse41_spec src dst buf, encodeBulkAvx2_spec src dst buf⟩

/-- **The x86 decode kernels** take all whole blocks up to the first character outside the
alphabet. -/
theorem decode_bulk_x86 (src : List Byte) (buf : OutBuf Byte) :
    (∃ n, BulkDecoded 16 src buf n (decodeBulkSse41 src src.length buf)) ∧
      ∃ n, BulkDecoded 32 src buf n (decodeBulkAvx2 src src.length buf) :=
  ⟨decodeBulkSse41_spec src buf, decodeBulkAvx2_spec src buf⟩

/-- **The NEON encode kernel** takes all whole blocks of 48 bytes, with either mapping. -/
theorem encode_bulk_neon (isa : NeonIsa) (src : List Byte) (buf : OutBuf Byte) :
    ∃ n, IsGreatest {m | 48 ∣ m ∧ m ≤ src.length} n ∧
      BulkEncoded src buf n (encodeBulkNeon isa src src.length buf) := by
  refine ⟨48 * (src.length / 48), ⟨⟨⟨_, rfl⟩, Nat.mul_div_le _ _⟩, ?_⟩,
    encodeBulkNeon_spec isa src buf⟩
  rintro m ⟨⟨k, rfl⟩, hle⟩
  omega

/-- **The NEON decode kernel** takes all whole blocks up to the first character outside the
alphabet. -/
theorem decode_bulk_neon (isa : NeonIsa) (src : List Byte) (buf : OutBuf Byte) :
    ∃ n, BulkDecoded 16 src buf n (decodeBulkNeon isa src src.length buf) :=
  decodeBulkNeon_spec isa src buf

end Libb64
