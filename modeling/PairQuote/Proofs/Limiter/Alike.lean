import PairQuote.Proofs.Limiter.Isolation

/-! # Limiters that cannot be told apart

Of a limiter a client sees whether its requests pass, and that depends on its budget and on the
client's own window.  From a time on, two limiters are alike **for a client** if their tables
track one account of the client (`AlikeFor`): they may differ by a window that has ended, and
in whatever they hold of others.  They are `Alike` if they are so for every client.

Both are kept by time (`of_le`) and by requests (`charge_self`, `charge_other`), so limiters
that are alike give the same answers to everything that is still to come (`Alike.log_eq`),
whatever either of them drops on the way.
-/
namespace PairQuote.Limiter

variable {l l' : Limiter} {client who : String} {now later : Nat} {requests : List (String × Nat)}

/-- Two limiters that one client cannot tell apart from a time on. -/
structure AlikeFor (client : String) (now : Nat) (l l' : Limiter) : Prop where
  budget_eq : l.budget = l'.budget
  tracks : ∃ own, Tracks now l.windows[client]? own ∧ Tracks now l'.windows[client]? own

namespace AlikeFor

protected theorem refl (client : String) (now : Nat) (l : Limiter) : AlikeFor client now l l :=
  ⟨rfl, _, Tracks.refl now _, Tracks.refl now _⟩

protected theorem symm (h : AlikeFor client now l l') : AlikeFor client now l' l := by
  obtain ⟨hbudget, own, htracks, htracks'⟩ := h
  exact ⟨hbudget.symm, own, htracks', htracks⟩

theorem of_le (h : AlikeFor client now l l') (hle : now ≤ later) :
    AlikeFor client later l l' := by
  obtain ⟨hbudget, own, htracks, htracks'⟩ := h
  exact ⟨hbudget, own, htracks.of_le hle, htracks'.of_le hle⟩

theorem passes_eq (h : AlikeFor client now l l') :
    (l.charge client now).1 = (l'.charge client now).1 := by
  obtain ⟨hbudget, own, htracks, htracks'⟩ := h
  rw [passes_charge, passes_charge, htracks.current_eq, htracks'.current_eq, hbudget]

/-- The client makes the same request at both. -/
theorem charge_self (h : AlikeFor client now l l') :
    AlikeFor client now (l.charge client now).2 (l'.charge client now).2 := by
  obtain ⟨hbudget, own, htracks, htracks'⟩ := h
  refine ⟨?_, _, htracks.charge_self, ?_⟩
  · rw [budget_charge, budget_charge, hbudget]
  · rw [hbudget]
    exact htracks'.charge_self

/-- Somebody else makes a request at one of them. -/
theorem charge_other (h : AlikeFor client now l l') (hwho : who ≠ client) :
    AlikeFor client now (l.charge who now).2 l' := by
  obtain ⟨hbudget, own, htracks, htracks'⟩ := h
  exact ⟨(budget_charge l who now).trans hbudget, own, htracks.charge_other (Ne.symm hwho),
    htracks'⟩

end AlikeFor

/-- Two limiters that nobody can tell apart from a time on. -/
def Alike (now : Nat) (l l' : Limiter) : Prop := ∀ client, AlikeFor client now l l'

namespace Alike

theorem of_le (h : Alike now l l') (hle : now ≤ later) : Alike later l l' :=
  fun client => (h client).of_le hle

/-- Somebody makes the same request at both. -/
theorem charge (h : Alike now l l') (who : String) :
    Alike now (l.charge who now).2 (l'.charge who now).2 := by
  intro client
  by_cases hwho : who = client
  · subst hwho
    exact (h who).charge_self
  · have hone : AlikeFor client now (l.charge who now).2 l' := (h client).charge_other hwho
    exact (hone.symm.charge_other hwho).symm

/-- **Limiters that are alike answer alike.** -/
theorem log_eq (h : Alike now l l') (sorted : requests.Pairwise (·.2 ≤ ·.2))
    (hstart : ∀ request ∈ requests, now ≤ request.2) : l.log requests = l'.log requests := by
  induction requests generalizing l l' now with
  | nil => rfl
  | cons request requests ih =>
    obtain ⟨who, time⟩ := request
    obtain ⟨htime, hsorted⟩ := List.pairwise_cons.mp sorted
    have hnow : Alike time l l' := h.of_le (hstart _ List.mem_cons_self)
    rw [log_cons, log_cons, (hnow who).passes_eq, ih (hnow.charge who) hsorted htime]

end Alike

end PairQuote.Limiter
