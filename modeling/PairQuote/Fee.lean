import PairQuote.Refusal

/-! # Swap fees

A **fee** is the number of parts per thousand that a pair keeps of the incoming amount.
It is always below a thousand, so that the **multiplier** — the parts that count towards
the swap — is positive.  Three fees are preset.
-/
namespace PairQuote

/-- Parts per thousand removed from the incoming amount. -/
structure Fee where
  removed : Nat
  removed_lt : removed < 1000
  deriving DecidableEq, Repr

namespace Fee

/-- The whole of which a fee removes parts. -/
def denominator : Nat := 1000

/-- Three parts per thousand, what every quote is priced with. -/
def percent030 : Fee := ⟨3, by decide⟩

/-- Five parts per thousand. -/
def percent050 : Fee := ⟨5, by decide⟩

/-- Ten parts per thousand. -/
def percent100 : Fee := ⟨10, by decide⟩

/-- The fee that removes `removed` parts, if that leaves any. -/
def ofRemoved (removed : Nat) : Except Refusal Fee :=
  if h : removed < 1000 then .ok ⟨removed, h⟩ else .error (.feeTooLarge removed)

/-- The parts per thousand that are left. -/
def multiplier (fee : Fee) : Nat := denominator - fee.removed

/-- The fees whose multipliers are kept ready, each with its multiplier. -/
def presets : List (Fee × Nat) := [(percent030, 997), (percent050, 995), (percent100, 990)]

/-- The multiplier that is kept ready for a fee, if there is one. -/
def readyMultiplier? (fee : Fee) : Option Nat := presets.lookup fee

/-- Whether the multiplier is kept ready. -/
def isPreset (fee : Fee) : Bool := fee.readyMultiplier?.isSome

/-- The name of a preset fee, its percentage. -/
def presetName? (fee : Fee) : Option String :=
  if fee = percent030 then some "0.30"
  else if fee = percent050 then some "0.50"
  else if fee = percent100 then some "1.00"
  else none

end Fee

end PairQuote
