import PairQuote.Binary64

/-! # The pool of scratch integers

Pricing works on borrowed integers.  The pool keeps returned ones on a **free list** of
bounded length and counts what happens to it:

* a borrowing that finds an integer on the list is a **hit**, one that has to make a new
  integer is a **miss**;
* every integer handed back is reset to zero and counted as a **release**; it goes onto
  the list if there is room and is dropped otherwise.

The list is used from one end, last returned, first borrowed.
-/
namespace PairQuote

/-- The free list, its greatest length and the counters. -/
structure ScratchPool where
  capacity : Nat
  free : Array Nat := #[]
  hits : Nat := 0
  misses : Nat := 0
  releases : Nat := 0
  deriving Repr

namespace ScratchPool

/-- The capacity of a pool for which none is chosen. -/
def defaultCapacity : Nat := 1024

/-- A pool that was never used. -/
def new (capacity : Nat) : ScratchPool := { capacity := capacity }

/-- How many integers wait on the free list. -/
def available (p : ScratchPool) : Nat := p.free.size

/-- How many borrowings there were. -/
def acquisitions (p : ScratchPool) : Nat := p.hits + p.misses

/-- Borrows an integer: the last on the free list, or a new zero. -/
def acquire (p : ScratchPool) : Nat × ScratchPool :=
  match p.free.back? with
  | some value => (value, { p with free := p.free.pop, hits := p.hits + 1 })
  | none => (0, { p with misses := p.misses + 1 })

/-- Hands an integer back.  What it held is forgotten, whatever that was. -/
def release (_value : Nat) (p : ScratchPool) : ScratchPool :=
  { p with
    free := if p.free.size < p.capacity then p.free.push 0 else p.free
    releases := p.releases + 1 }

/-- Hands back several integers, the first of the list first. -/
def releaseAll (values : List Nat) (p : ScratchPool) : ScratchPool :=
  values.foldl (fun p value => p.release value) p

/-- The share of hits among the borrowings, in percent. -/
def hitRate (p : ScratchPool) : Binary64 :=
  if p.acquisitions = 0 then Binary64.zero
  else ((Binary64.ofNat p.hits).div (Binary64.ofNat p.acquisitions)).mul (Binary64.ofNat 100)

/-- Borrows an integer and overwrites what it held. -/
def load (value : Nat) : StateM ScratchPool Nat := do
  let _ ← acquire
  pure value

end ScratchPool

end PairQuote
