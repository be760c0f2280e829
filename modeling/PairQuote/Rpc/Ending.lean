/-! # Work that may stop

Some work has no result, not even a failure, for what it is given: it stops where it is.  An
`Ending` tells whether that has happened.  Whoever goes on with a result (`map`, `bind`) never
gets to it then.
-/
namespace PairQuote.Rpc

/-- How work ends that may stop. -/
inductive Ending (α : Type) where
  | returned (a : α)
  | stopped
  deriving DecidableEq, Repr

namespace Ending

variable {α β : Type}

/-- What is made of the result. -/
def map (f : α → β) : Ending α → Ending β
  | returned a => returned (f a)
  | stopped => stopped

/-- What follows the result. -/
def bind (e : Ending α) (f : α → Ending β) : Ending β :=
  match e with
  | returned a => f a
  | stopped => stopped

/-- The result of work that did not stop. -/
def result : (e : Ending α) → e ≠ stopped → α
  | returned a, _ => a
  | stopped, h => absurd rfl h

@[simp] theorem map_returned (f : α → β) (a : α) : (returned a).map f = returned (f a) := rfl

@[simp] theorem map_stopped (f : α → β) : (stopped : Ending α).map f = stopped := rfl

/-- Making something of a result does not stop. -/
@[simp] theorem map_eq_stopped_iff {f : α → β} {e : Ending α} :
    e.map f = stopped ↔ e = stopped := by
  cases e with
  | returned a => exact ⟨nofun, nofun⟩
  | stopped => exact ⟨fun _ => rfl, fun _ => rfl⟩

theorem map_eq_returned_iff {f : α → β} {e : Ending α} {b : β} :
    e.map f = returned b ↔ ∃ a, e = returned a ∧ f a = b := by
  cases e with
  | returned a =>
    constructor
    · exact fun h => ⟨a, rfl, returned.inj h⟩
    · rintro ⟨a', ha, rfl⟩
      rw [returned.inj ha, map_returned]
  | stopped => exact ⟨nofun, fun ⟨_, ha, _⟩ => nomatch ha⟩

theorem result_of_eq {e : Ending α} {a : α} (ha : e = returned a) (h : e ≠ stopped) :
    e.result h = a := by
  subst ha
  rfl

end Ending

end PairQuote.Rpc
