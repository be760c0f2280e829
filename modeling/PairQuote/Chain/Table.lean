import PairQuote.Chain

/-! # A chain given by a table

The simplest chain: a head, a table of words and a table of failures.  A slot that is not
in the table holds the zero word at every block.  Asking for the head moves it on by a
fixed step, around the end of the 64-bit numbers.  A call at a **fault point** fails with
the text given there.
-/
namespace PairQuote

/-- Where a call can be made to fail: at the head or at a slot of any contract. -/
inductive FaultPoint where
  | head
  | slot (number : UInt64)
  deriving DecidableEq, Repr

/-- A head, a table of words and a table of failures. -/
structure TableChain where
  head : UInt64 := 0
  advance : UInt64 := 0
  slots : List ((Address × UInt64) × Word) := []
  faults : List (FaultPoint × String) := []

namespace TableChain

/-- The word in a slot; the last entry of the slot counts. -/
def word (c : TableChain) (contract : Address) (slot : UInt64) : Word :=
  (c.slots.lookup (contract, slot)).getD Word.zero

/-- Puts a word into a slot. -/
def setSlot (contract : Address) (slot : UInt64) (w : Word) (c : TableChain) : TableChain :=
  { c with slots := ((contract, slot), w) :: c.slots }

/-- Makes the calls at a point fail with a text. -/
def fail (point : FaultPoint) (text : String) (c : TableChain) : TableChain :=
  { c with faults := (point, text) :: c.faults }

/-- Makes all calls succeed again. -/
def heal (c : TableChain) : TableChain := { c with faults := [] }

/-- The answer at a point: the failure set there, or the value. -/
def answer {α : Type} (c : TableChain) (point : FaultPoint) (value : α) : Except String α :=
  match c.faults.lookup point with
  | some text => .error text
  | none => .ok value

/-- Answers calls from the table.  A failed call leaves the head where it is. -/
def source : ChainSource TableChain where
  latest c :=
    match c.answer .head c.head with
    | .ok head => (.ok head, { c with head := c.head + c.advance })
    | .error text => (.error text, c)
  read contract slot _ c := (c.answer (.slot slot) (c.word contract slot), c)

end TableChain

end PairQuote
