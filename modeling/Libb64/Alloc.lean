import Libb64.Target

/-!
# The allocator interface, `alloc.h`

A customer's allocator is one callback with a context. What it answers may depend on all calls it
has had before, so the calls are kept as a list, oldest first. A callback written in C++ may also
leave by throwing `std::bad_alloc`.
-/

namespace Libb64

variable {T : Target}

inductive B64Memlife where
  | short
  | long
deriving DecidableEq, Repr

/-- The arguments of one call of `realloc_fn`; a block is known by its address. -/
structure ReallocCall (T : Target) where
  ptr : Option Nat
  size : T.SizeT
  life : B64Memlife
deriving DecidableEq, Repr

/-- How a call of `realloc_fn` ends. -/
inductive ReallocReply where
  | block (ptr : Nat)
  | null
  | badAlloc
deriving DecidableEq, Repr

/-- `b64_allocator`: the callback with whatever its context remembers. By its contract a call with
size 0 allocates nothing. -/
structure B64Allocator (T : Target) where
  reallocFn : List (ReallocCall T) → ReallocCall T → ReallocReply
  size_zero : ∀ calls call, call.size = 0 → reallocFn calls call = .null

/-- `b64_new_delete_realloc` over an operator `new[]` that gives a block or throws. -/
def b64NewDeleteRealloc (newArray : List (ReallocCall T) → T.SizeT → Option Nat)
    (calls : List (ReallocCall T)) (call : ReallocCall T) : ReallocReply :=
  if call.size ≠ 0 then
    match newArray calls call.size with
    | some p => .block p
    | none => .badAlloc
  else
    .null

def defaultCppAllocator (newArray : List (ReallocCall T) → T.SizeT → Option Nat) :
    B64Allocator T where
  reallocFn := b64NewDeleteRealloc newArray
  size_zero _ _ h := if_neg (not_not.mpr h)

/-- `alloc_scratch`: the calls made so far and the answer to this one. -/
def B64Allocator.allocScratch (alloc : B64Allocator T) (calls : List (ReallocCall T))
    (n : T.SizeT) : List (ReallocCall T) × ReallocReply :=
  let call := { ptr := none, size := n, life := .short }
  (calls ++ [call], alloc.reallocFn calls call)

/-- `free_scratch`; the answer is not looked at. -/
def freeScratch (calls : List (ReallocCall T)) (p : Nat) : List (ReallocCall T) :=
  calls ++ [{ ptr := some p, size := 0, life := .short }]

/-! ## What the stream wrappers share -/

/-- The constructors' clamp of `buffersize_in`. -/
def clampBuffersize (buffersizeIn : CInt) : CInt :=
  if buffersizeIn.slt 1 then 1 else buffersizeIn

theorem clampBuffersize_pos (buffersizeIn : CInt) : 1 ≤ (clampBuffersize buffersizeIn).toInt := by
  unfold clampBuffersize
  split
  · decide
  · next h =>
    rw [BitVec.slt_iff_toInt_lt] at h
    exact Int.not_lt.mp h

/-- `static_cast<size_t>` of an `int` -/
def Target.ofInt (T : Target) (n : CInt) : T.SizeT := BitVec.ofInt T.sizeBits n.toInt

/-- What `istream.read(buf, n)` leaves behind: the bytes delivered, those still to come, and
`good()`. -/
structure IStreamRead where
  delivered : List Byte
  remaining : List Byte
  good : Bool

/-- `istream.read(buf, n)` of a stream with the given bytes to come; it is short only at their
end. -/
def istreamRead (istreamIn : List Byte) (n : Nat) : IStreamRead where
  delivered := istreamIn.take n
  remaining := istreamIn.drop n
  good := decide (n ≤ istreamIn.length)

end Libb64
