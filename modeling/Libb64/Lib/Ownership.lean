import Mathlib.Data.List.Basic
import Mathlib.Data.List.Pairwise

/-!
# Blocks of memory and their owners

Blocks are stretches of one address space. An owner keeps data at the start of a block. As long as
new blocks are apart from those that are owned, and whoever fills a block writes nowhere else, what
the owners keep stays as it is (`Intact.add`).
-/

namespace Ownership

/-- A stretch of an address space. -/
structure Block where
  ptr : Nat
  size : Nat
deriving DecidableEq, Repr

def Block.Apart (b b' : Block) : Prop := b.ptr + b.size ≤ b'.ptr ∨ b'.ptr + b'.size ≤ b.ptr

/-- A block, and the data that its owner keeps there. -/
structure Owned (β : Type*) where
  block : Block
  data : List β

/-- The `n` items of a memory from an address on. -/
def readMemory {β : Type*} (memory : Nat → β) (ptr n : Nat) : List β :=
  (List.range' ptr n).map memory

/-- Each owner has a block to itself and finds its data there. -/
structure Intact {β : Type*} (memory : Nat → β) (owned : List (Owned β)) : Prop where
  apart : owned.Pairwise fun o o' => o.block.Apart o'.block
  fits : ∀ o ∈ owned, o.data.length ≤ o.block.size
  reads : ∀ o ∈ owned, readMemory memory o.block.ptr o.data.length = o.data

namespace Intact

variable {β : Type*} {memory memory' : Nat → β} {owned owned' : List (Owned β)}

theorem nil (memory : Nat → β) : Intact memory [] where
  apart := .nil
  fits o ho := by cases ho
  reads o ho := by cases ho

/-- **A new block**, filled without touching anything outside. -/
theorem add (h : Intact memory owned) {o : Owned β}
    (hapart : ∀ o' ∈ owned, o.block.Apart o'.block) (hfits : o.data.length ≤ o.block.size)
    (hreads : readMemory memory' o.block.ptr o.data.length = o.data)
    (hframe : ∀ a, a < o.block.ptr ∨ o.block.ptr + o.block.size ≤ a → memory' a = memory a) :
    Intact memory' (o :: owned) where
  apart := List.pairwise_cons.mpr ⟨hapart, h.apart⟩
  fits := by
    intro o' ho'
    rcases List.mem_cons.mp ho' with rfl | ho'
    · exact hfits
    · exact h.fits o' ho'
  reads := by
    intro o' ho'
    rcases List.mem_cons.mp ho' with rfl | ho'
    · exact hreads
    · rw [← h.reads o' ho']
      have hsame : ∀ a ∈ List.range' o'.block.ptr o'.data.length, memory' a = memory a := by
        intro a ha
        have hfit := h.fits o' ho'
        rw [List.mem_range'_1] at ha
        apply hframe
        rcases hapart o' ho' with hle | hle <;> omega
      rw [readMemory, readMemory, List.length_map, List.length_range', List.map_congr_left hsame]

theorem sublist (h : Intact memory owned) (hsub : owned'.Sublist owned) : Intact memory owned' where
  apart := h.apart.sublist hsub
  fits o ho := h.fits o (hsub.mem ho)
  reads o ho := h.reads o (hsub.mem ho)

end Intact

end Ownership
