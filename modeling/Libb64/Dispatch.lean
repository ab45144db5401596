import Libb64.Lib.LazyPointer
import Libb64.CdecodeSimdSse
import Libb64.Cdecode
import Libb64.CencodeSimdSse
import Libb64.Cencode

/-!
# Dispatch on x86

The bulk functions go through two function pointers of the library, `encode_impl` and
`decode_impl`, which all threads share. Each starts out at a resolver; the first call picks the
kernel for the CPU and patches the pointer, with relaxed atomics in case several threads make a
first call at a time. Here the block functions are written as code that makes these calls, so that
calls of different threads can be interleaved.
-/

namespace Libb64

variable {T : Target}

/-! ## The CPU's features, `cpu_features.c` -/

/-- `encode_impl` and `decode_impl` -/
inductive ImplPtr where
  | encodeImpl
  | decodeImpl
deriving DecidableEq, Repr

instance : Fintype ImplPtr where
  elems := {.encodeImpl, .decodeImpl}
  complete ptr := by cases ptr <;> decide

/-- The functions that a resolver picks from. -/
inductive BulkImpl where
  | none
  | sse41
  | avx2
deriving DecidableEq, Repr

/-- The arguments of a bulk function, with the memory behind `dst`; `dst` is its address. -/
structure BulkArgs where
  src : List Byte
  dst : Nat
  buf : OutBuf Byte

/-- What a bulk function leaves behind: the count it returns and the memory behind `dst`, or a
fault. -/
abbrev BulkReply := Option (Nat × OutBuf Byte)

def BulkImpl.encodeBulk : BulkImpl → List Byte → Nat → Nat → OutBuf Byte → BulkReply
  | .none => encodeBulkNone
  | .sse41 => encodeBulkSse41
  | .avx2 => encodeBulkAvx2

def BulkImpl.decodeBulk : BulkImpl → List Byte → Nat → OutBuf Byte → BulkReply
  | .none => decodeBulkNone
  | .sse41 => decodeBulkSse41
  | .avx2 => decodeBulkAvx2

/-- The choice that `encode_resolve` and `decode_resolve` make. -/
def bulkResolve (cpu : X86Cpu) : BulkImpl :=
  if cpu.hasAvx2 then .avx2
  else if cpu.hasSse41 then .sse41
  else .none

/-- The dispatch of a CPU. -/
def x86Dispatch (cpu : X86Cpu) : LazyPointers ImplPtr BulkImpl BulkArgs BulkReply where
  resolve _ := bulkResolve cpu
  exec ptr impl x :=
    match ptr with
    | .encodeImpl => impl.encodeBulk x.src x.src.length x.dst x.buf
    | .decodeImpl => impl.decodeBulk x.src x.src.length x.buf

/-- Code of the library on x86, which ends with a result or a fault. -/
abbrev X86Code (α : Type) := CallTree ImplPtr BulkArgs BulkReply (Option α)

/-- Goes on with a result; a fault ends the code. -/
def X86Code.andThen {α γ : Type} (t : X86Code α) (k : α → X86Code γ) : X86Code γ :=
  t.bind fun r =>
    match r with
    | none => .done none
    | some a => k a

/-! ## The block functions -/

/-- `base64_encode_block`, with `code_out` at an address and whatever its memory held. -/
def base64EncodeBlockX86 (codeOut : Nat) (contents : Nat → Byte) (plaintextIn : List Byte)
    (stateIn : Base64EncodeState T) : X86Code (Base64EncodeResult T) :=
  if stateIn.step = .stepA ∧ stateIn.charsPerLine = 0 then
    .call .encodeImpl { src := plaintextIn, dst := codeOut, buf := .fresh contents } fun reply =>
      match reply with
      | none => .done none
      | some (consumed, buf) =>
        if consumed ≠ 0 then
          let produced := consumed / 3 * 4
          let stateIn := { stateIn with stepcount := stateIn.stepcount + BitVec.ofNat _ produced }
          let r := base64EncodeBlockScalar (plaintextIn.drop consumed) stateIn
          .done (some { r with
            codeOut := buf.slice 0 produced ++ r.codeOut
            returned := produced + r.returned })
        else
          .done (some (base64EncodeBlockScalar plaintextIn stateIn))
  else
    .done (some (base64EncodeBlockScalar plaintextIn stateIn))

/-- The bulk call of the dispatching loop, if the loop makes one: the count and the buffer. -/
def decodeBulkX86 (p : List Byte) (o : Nat) (buf : OutBuf Byte) (state : Base64DecodeState) :
    X86Code (Nat × OutBuf Byte) :=
  if state.step = .stepa ∧ p.length ≥ 16 then
    .call .decodeImpl { src := p, dst := o, buf := buf.window o } fun reply =>
      .done (reply.map fun r => (r.1, buf.patch o r.2))
  else
    .done (some (0, buf))

/-- The dispatching loop of `base64_decode_block`. -/
def dispatchLoopX86 (T : Target) (p : List Byte) (o : Nat) (buf : OutBuf Byte)
    (state : Base64DecodeState) : X86Code (Nat × OutBuf Byte × Base64DecodeState) :=
  if _hrem : p.length = 0 then
    .done (some (o, buf, state))
  else
    (decodeBulkX86 p o buf state).andThen fun (consumed, buf) =>
      if _hbulk : consumed ≠ 0 then
        dispatchLoopX86 T (p.drop consumed) (o + consumed / 4 * 3) buf state
      else
        let clean := cleanLength p
        let take := if clean < p.length then clean + 1 else clean
        let r := base64DecodeBlockScalar T (p.take take) o buf state
        dispatchLoopX86 T (p.drop take) (o + r.returned) r.plaintextOut r.state
termination_by p.length
decreasing_by
  · simp only [List.length_drop]
    omega
  · have := cleanLength_le p
    simp only [List.length_drop]
    split <;> omega

/-- `base64_decode_block` -/
def base64DecodeBlockX86 (T : Target) (codeIn : List Byte) (contents : Nat → Byte)
    (stateIn : Base64DecodeState) : X86Code Base64DecodeResult :=
  (dispatchLoopX86 T codeIn 0 (.fresh contents) stateIn).andThen fun (o, buf, state) =>
    .done (some { state, plaintextOut := buf, returned := o })

/-! ## Clients -/

/-- The states a thread has of its own. -/
structure ClientState (T : Target) where
  encode : Base64EncodeState T
  decode : Base64DecodeState

def ClientState.init (T : Target) : ClientState T where
  encode := base64InitEncodestate T
  decode := base64InitDecodestate

/-- What a thread may do with its states. -/
inductive ClientOp (T : Target) where
  | initEncode
  | setCharsPerLine (c : T.SizeT)
  | encodeBlock (codeOut : Nat) (contents : Nat → Byte) (plaintextIn : List Byte)
  | encodeBlockend
  | initDecode
  | decodeBlock (contents : Nat → Byte) (codeIn : List Byte)

/-- An operation: the states it leaves and the bytes it brings out. -/
def ClientOp.code (s : ClientState T) : ClientOp T → X86Code (ClientState T × List Byte)
  | .initEncode => .done (some ({ s with encode := base64InitEncodestate T }, []))
  | .setCharsPerLine c =>
    .done (some ({ s with encode := { s.encode with charsPerLine := c } }, []))
  | .encodeBlock codeOut contents plaintextIn =>
    (base64EncodeBlockX86 codeOut contents plaintextIn s.encode).andThen fun r =>
      .done (some ({ s with encode := r.state }, r.codeOut.take r.returned))
  | .encodeBlockend =>
    let r := base64EncodeBlockend s.encode
    .done (some ({ s with encode := r.state }, r.codeOut.take r.returned))
  | .initDecode => .done (some ({ s with decode := base64InitDecodestate }, []))
  | .decodeBlock contents codeIn =>
    (base64DecodeBlockX86 T codeIn contents s.decode).andThen fun r =>
      .done (some ({ s with decode := r.state }, r.plaintextOut.slice 0 r.returned))

/-- The operations of a thread, one after the other, and what each brought out. -/
def clientCode (s : ClientState T) : List (ClientOp T) → X86Code (List (List Byte))
  | [] => .done (some [])
  | op :: ops =>
    (op.code s).andThen fun (s', out) =>
      (clientCode s' ops).andThen fun outs => .done (some (out :: outs))

end Libb64
