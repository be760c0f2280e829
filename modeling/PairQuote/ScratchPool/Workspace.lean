import PairQuote.Swap

/-! # Borrowers of scratch integers

A **workspace** is a pool together with the integers that are out of it, each held under
the name of its borrower.  A borrower takes an integer, changes it and lets it go; others
may do the same in between, integers made elsewhere may be handed back, and whole swaps
may be priced on the same pool.  A `Step` is one such move and `apply` carries it out.

Taking an integer under a name that holds one already takes the new one first and lets
the old one go then.
-/
namespace PairQuote.ScratchPool

variable {ι : Type} [DecidableEq ι]

/-- A pool and the integers that are out of it. -/
structure Workspace (ι : Type) where
  pool : ScratchPool
  held : List (ι × Nat) := []

/-- A move of a borrower, or of somebody else, on the same pool. -/
inductive Step (ι : Type) where
  | acquire (id : ι)
  | set (id : ι) (value : Nat)
  | add (id : ι) (value : Nat)
  | multiply (id : ι) (value : Nat)
  | get (id : ι)
  | letGo (id : ι)
  /-- Hands back integers that were made elsewhere. -/
  | release (value count : Nat)
  /-- Prices a swap with the fee that removes so many parts. -/
  | compute (amountIn reserveIn reserveOut feeRemoved : Nat)

/-- The borrower a step belongs to. -/
def Step.borrower? : Step ι → Option ι
  | .acquire id | .set id _ | .add id _ | .multiply id _ | .get id | .letGo id => some id
  | .release .. | .compute .. => none

namespace Workspace

/-- A workspace over a pool that was never used. -/
def new (capacity : Nat) : Workspace ι := { pool := ScratchPool.new capacity }

/-- What a borrower's integer holds, if it has one. -/
def value? (w : Workspace ι) (id : ι) : Option Nat := w.held.lookup id

/-- The integers held under other names. -/
def others (w : Workspace ι) (id : ι) : List (ι × Nat) := w.held.filter (·.1 ≠ id)

/-- Changes what a borrower's integer holds. -/
def update (id : ι) (f : Nat → Nat) (w : Workspace ι) : Workspace ι :=
  { w with held := w.held.map fun (name, n) => if name = id then (name, f n) else (name, n) }

/-- Lets a borrower's integer go back to the pool. -/
def letGo (id : ι) (w : Workspace ι) : Workspace ι :=
  match w.value? id with
  | some n => ⟨w.pool.release n, w.others id⟩
  | none => w

/-- Borrows an integer under a name. -/
def acquire (id : ι) (w : Workspace ι) : Workspace ι :=
  let (value, pool) := w.pool.acquire
  let w := letGo id { w with pool := pool }
  { w with held := (id, value) :: w.held }

/-- Prices a swap on the pool of the workspace. -/
def compute (amountIn reserveIn reserveOut feeRemoved : Nat) (w : Workspace ι) :
    Except Refusal Nat × Workspace ι :=
  match Fee.ofRemoved feeRemoved with
  | .error e => (.error e, w)
  | .ok fee =>
    let (amount, pool) := (Swap.amountOut amountIn reserveIn reserveOut fee).run w.pool
    (.ok amount, { w with pool := pool })

/-- Carries out a step; a priced swap also has a result. -/
def apply (w : Workspace ι) : Step ι → Option (Except Refusal Nat) × Workspace ι
  | .acquire id => (none, w.acquire id)
  | .set id value => (none, w.update id fun _ => value)
  | .add id value => (none, w.update id (· + value))
  | .multiply id value => (none, w.update id (· * value))
  | .get _ => (none, w)
  | .letGo id => (none, w.letGo id)
  | .release value count =>
    (none, { w with pool := w.pool.releaseAll (List.replicate count value) })
  | .compute amountIn reserveIn reserveOut feeRemoved =>
    let (result, w) := w.compute amountIn reserveIn reserveOut feeRemoved
    (some result, w)

/-- Carries out steps in turn. -/
def run (w : Workspace ι) (steps : List (Step ι)) : Workspace ι :=
  steps.foldl (fun w step => (w.apply step).2) w

end Workspace

end PairQuote.ScratchPool
