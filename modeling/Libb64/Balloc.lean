import Libb64.Alloc
import Libb64.Cdecode
import Libb64.Cencode

/-!
# The allocating helpers, `balloc.c`

One call encodes or decodes a whole text into a block of its own, obtained from the customer's
callback or from the C library. A callback called from C returns: its answer is a block or `NULL`.
-/

namespace Libb64

variable {T : Target}

/-- `b64_realloc_fn` with whatever its context remembers; `none` is `NULL`. -/
abbrev B64ReallocFn (T : Target) := List (ReallocCall T) → ReallocCall T → Option Nat

/-- `b64_allocator` as a C caller fills it in; the callback may be `NULL`. -/
structure B64CAllocator (T : Target) where
  reallocFn : Option (B64ReallocFn T)

/-- The C library's `realloc`; it may answer by all that happened before. -/
abbrev CRealloc (T : Target) := List (ReallocCall T) → Option Nat → T.SizeT → Option Nat

def defaultRealloc (realloc : CRealloc T) : B64ReallocFn T :=
  fun calls call => if call.size ≠ 0 then realloc calls call.ptr call.size else none

/-- `resolve`: the callback to call; a `NULL` allocator or callback stands for the default. -/
def resolve (realloc : CRealloc T) (alloc : Option (B64CAllocator T)) : B64ReallocFn T :=
  match alloc with
  | none => defaultRealloc realloc
  | some alloc => alloc.reallocFn.getD (defaultRealloc realloc)

/-- What an allocating call leaves behind: the value it returned, the objects behind `out` and
`outlen`, where these are not `NULL`, the allocator's calls, and the memory of the block it may have
obtained. -/
structure Base64AllocResult (T : Target) where
  returned : CInt
  out : Option (Option Nat)
  outlen : Option T.SizeT
  calls : List (ReallocCall T)
  buf : OutBuf Byte

/-- `base64_encode_alloc`; `contents` is what the block holds when it is obtained. -/
def base64EncodeAlloc (realloc : CRealloc T) (simd : Base64EncodeBulkSimd)
    (alloc : Option (B64CAllocator T)) (calls : List (ReallocCall T)) (contents : Nat → Byte)
    (plaintext : List Byte) (out : Option (Option Nat)) (outlen : Option T.SizeT) :
    Base64AllocResult T :=
  let reallocFn := resolve realloc alloc
  let length : T.SizeT := BitVec.ofNat _ plaintext.length
  if out = none ∨ outlen = none then
    { returned := -1, out, outlen, calls, buf := .fresh contents }
  else
    let state := base64InitEncodestate T
    let cap := (base64EncodeLength length state).value
    if cap = 0 ∧ length ≠ 0 then
      { returned := -1, out := some none, outlen := some 0, calls, buf := .fresh contents }
    else
      let call := { ptr := none, size := cap + 1, life := .long }
      match reallocFn calls call with
      | none =>
        { returned := -1, out := some none, outlen := some 0, calls := calls ++ [call],
          buf := .fresh contents }
      | some buf =>
        let r := base64EncodeBlock simd plaintext state
        let n : T.SizeT := BitVec.ofNat _ r.returned
        let e := base64EncodeBlockend r.state
        let n' := n + BitVec.ofNat _ e.returned
        { returned := 0, out := some (some buf), outlen := some n', calls := calls ++ [call],
          buf := (((OutBuf.fresh contents).storeList 0 r.codeOut).storeList n.toNat
            e.codeOut).store n'.toNat 0 }

/-- `base64_decode_alloc`; `contents` is what the block holds when it is obtained. -/
def base64DecodeAlloc (realloc : CRealloc T) (simd : Base64DecodeBulkSimd)
    (alloc : Option (B64CAllocator T)) (calls : List (ReallocCall T)) (contents : Nat → Byte)
    (code : List Byte) (out : Option (Option Nat)) (outlen : Option T.SizeT) :
    Base64AllocResult T :=
  let reallocFn := resolve realloc alloc
  let length : T.SizeT := BitVec.ofNat _ code.length
  if out = none ∨ outlen = none then
    { returned := -1, out, outlen, calls, buf := .fresh contents }
  else
    let call := { ptr := none, size := base64DecodeMaxlength length, life := .long }
    match reallocFn calls call with
    | none =>
      { returned := -1, out := some none, outlen := some 0, calls := calls ++ [call],
        buf := .fresh contents }
    | some buf =>
      let r := base64DecodeBlock T simd code 0 (.fresh contents) base64InitDecodestate
      { returned := 0, out := some (some buf), outlen := some (BitVec.ofNat _ r.returned),
        calls := calls ++ [call], buf := r.plaintextOut }

/-- `base64_free`: the calls made so far; the answer is not looked at. -/
def base64Free (calls : List (ReallocCall T)) (ptr : Option Nat) : List (ReallocCall T) :=
  match ptr with
  | none => calls
  | some p => calls ++ [{ ptr := some p, size := 0, life := .long }]

end Libb64
