import PairQuote.Proofs.Limiter.Alike
import PairQuote.Settings.Load

/-! # A refused request has no effect

A request is refused only in a window that is live and full, so with a positive budget it
leaves its own entry as it was, and the pruning is all that it does (`untouched_of_refused`).
What it leaves is `Alike` to what it found; so a refused request can be struck from a run.

With no budget at all every request is refused.  There a refused request can open a window,
but an empty one, which makes no difference to any answer either.
-/
namespace PairQuote

namespace Limiter
variable {l l' : Limiter} {client : String} {now : Nat} {requests : List (String × Nat)}

/-! ## What a refused request leaves -/

/-- What a refused request of a client leaves of the table. -/
structure Untouched (client : String) (now : Nat) (before after : Limiter) : Prop where
  budget_eq : after.budget = before.budget
  /-- The window of the client, its start and its count, is as it was. -/
  own_kept : ∃ w : Window, before.windows[client]? = some w ∧ after.windows[client]? = some w
  /-- Entries are kept.  If there were many clients, those of other clients may be gone whose
  windows have ended. -/
  others_kept : ∀ other : String, after.windows[other]? = before.windows[other]? ∨
    (other ≠ client ∧ pruneThreshold ≤ before.tracked ∧ after.windows[other]? = none ∧
      ∃ w : Window, before.windows[other]? = some w ∧ w.isLive now = false)

/-- With a positive budget a request is refused only in a live window that is full. -/
theorem entry_of_refused (hpos : 0 < l.budget) (h : (l.charge client now).1 = false) :
    ∃ w : Window, l.windows[client]? = some w ∧ w.counted l.budget = w ∧
      Window.current now l.windows[client]? = w := by
  rw [passes_charge, decide_eq_false_iff_not] at h
  rcases Window.current_cases now l.windows[client]? with ⟨w, hw, -, hcur⟩ | ⟨-, hcur⟩
  · rw [hcur] at h
    exact ⟨w, hw, if_neg h, hcur⟩
  · rw [hcur] at h
    exact absurd hpos h

/-- An entry that the pruning drops is an ended window, and there are many clients. -/
theorem dropped_of_prune {other : String}
    (h : (l.prune now).windows[other]? ≠ l.windows[other]?) :
    pruneThreshold ≤ l.tracked ∧ (l.prune now).windows[other]? = none ∧
      ∃ w : Window, l.windows[other]? = some w ∧ w.isLive now = false := by
  have hmany : pruneThreshold ≤ l.tracked := by
    refine Nat.le_of_not_lt fun hfew => h ?_
    rw [prune_of_lt hfew]
  refine ⟨hmany, ?_⟩
  rcases l.windows_prune other now with hsame | hfilter
  · exact absurd hsame h
  · rw [hfilter] at h ⊢
    cases hentry : l.windows[other]? with
    | none =>
      rw [hentry] at h
      exact absurd rfl h
    | some w =>
      rw [hentry] at h
      cases hlive : w.isLive now with
      | true => exact absurd (Option.filter_some_pos hlive) h
      | false => exact ⟨Option.filter_some_neg (by simp [hlive]), w, rfl, hlive⟩

/-- **A refused request leaves the table untouched**, but for windows that have ended. -/
theorem untouched_of_refused (hpos : 0 < l.budget) (h : (l.charge client now).1 = false) :
    Untouched client now l (l.charge client now).2 := by
  obtain ⟨w, hw, hfull, hcur⟩ := entry_of_refused hpos h
  have hown : (l.charge client now).2.windows[client]? = some w := by
    rw [windows_charge_self, hcur, hfull]
  refine ⟨budget_charge l client now, ⟨w, hw, hown⟩, fun other => ?_⟩
  by_cases hother : other = client
  · subst hother
    exact .inl (hown.trans hw.symm)
  · rw [windows_charge_other l client now hother]
    by_cases hsame : (l.prune now).windows[other]? = l.windows[other]?
    · exact .inl hsame
    · exact .inr ⟨hother, dropped_of_prune hsame⟩

theorem Untouched.alike (h : Untouched client now l l') : Alike now l l' := by
  refine fun other => ⟨h.budget_eq.symm, l.windows[other]?, Tracks.refl now _, ?_⟩
  rcases h.others_kept other with hsame | ⟨-, -, hnone, w, hw, hended⟩
  · rw [hsame]
    exact Tracks.refl now _
  · rw [hnone]
    refine ⟨nofun, fun w' hw' hlive => ?_⟩
    -- the entry that is gone had ended
    obtain rfl := Option.some.inj (hw.symm.trans hw')
    rw [hended] at hlive
    cases hlive

/-! ## A run without a refused request -/

/-- With no budget everything is refused. -/
theorem log_eq_of_no_budget (h : l.budget = 0) (h' : l'.budget = 0) :
    l.log requests = l'.log requests := by
  induction requests generalizing l l' with
  | nil => rfl
  | cons request requests ih =>
    obtain ⟨who, time⟩ := request
    have hrest := ih ((budget_charge l who time).trans h) ((budget_charge l' who time).trans h')
    rw [log_cons, log_cons, hrest, passes_charge, passes_charge, h, h']
    rfl

/-- What follows a refused request is answered as if it had not been made. -/
theorem log_charge_of_refused (h : (l.charge client now).1 = false)
    (sorted : requests.Pairwise (·.2 ≤ ·.2)) (hstart : ∀ request ∈ requests, now ≤ request.2) :
    l.log requests = (l.charge client now).2.log requests := by
  rcases Nat.eq_zero_or_pos l.budget with hzero | hpos
  · exact log_eq_of_no_budget hzero ((budget_charge l client now).trans hzero)
  · exact (untouched_of_refused hpos h).alike.log_eq sorted hstart

/-- **A refused request can be struck from a run**: the log loses its entry and is otherwise
the same. -/
theorem log_eraseIdx {n : Nat} {e : LogEntry} (sorted : requests.Pairwise (·.2 ≤ ·.2))
    (he : (l.log requests)[n]? = some e) (hrefused : e.allowed = false) :
    l.log (requests.eraseIdx n) = (l.log requests).eraseIdx n := by
  induction requests generalizing l n with
  | nil => rfl
  | cons request requests ih =>
    obtain ⟨who, time⟩ := request
    obtain ⟨htime, hsorted⟩ := List.pairwise_cons.mp sorted
    cases n with
    | zero =>
      have hentry : (⟨who, time, (l.charge who time).1⟩ : LogEntry) = e := Option.some.inj he
      rw [← hentry] at hrefused
      exact log_charge_of_refused hrefused hsorted htime
    | succ n => exact congrArg (_ :: ·) (ih hsorted he)

/-- The answer that the log has for a request was given by the table at that moment. -/
theorem charge_of_log {n : Nat} {e : LogEntry} (he : (l.log requests)[n]? = some e) :
    requests[n]? = some (e.client, e.time) ∧
      ((l.run (requests.take n)).2.charge e.client e.time).1 = e.allowed := by
  induction requests generalizing l n with
  | nil => cases he
  | cons request requests ih =>
    cases n with
    | zero =>
      obtain rfl := Option.some.inj he
      exact ⟨rfl, rfl⟩
    | succ n => exact ih he

end Limiter

/-- The last checks let only a positive budget pass. -/
theorem Settings.requestsPerMinute_pos {s checked : Settings} (h : s.validate = .ok checked) :
    0 < checked.requestsPerMinute.toNat := by
  unfold validate at h
  split at h
  · cases h
  · split at h
    · cases h
    · split at h
      · cases h
      · next hpos =>
        obtain rfl := Except.ok.inj h
        exact Nat.pos_of_ne_zero fun hzero => hpos (UInt32.toNat.inj hzero)

namespace Limiter

/-- **A refused request has no effect.**  In a run at never decreasing times it can be struck
out, and every other request is answered as before; and if the budget is positive, as it is
in all settings that pass the last checks, it leaves the table untouched but for windows of
other clients that have ended. -/
theorem refused_without_effect (budget : Nat) (requests : List (String × Nat))
    (sorted : requests.Pairwise (·.2 ≤ ·.2)) :
    (∀ n e, ((new budget).log requests)[n]? = some e → e.allowed = false →
      (new budget).log (requests.eraseIdx n) = ((new budget).log requests).eraseIdx n) ∧
    (0 < budget → ∀ n e, ((new budget).log requests)[n]? = some e → e.allowed = false →
      Untouched e.client e.time ((new budget).run (requests.take n)).2
        ((new budget).run (requests.take (n + 1))).2) ∧
    ∀ s checked : Settings, s.validate = .ok checked → 0 < checked.requestsPerMinute.toNat := by
  refine ⟨fun n e he hrefused => log_eraseIdx sorted he hrefused, ?_,
    fun s checked h => Settings.requestsPerMinute_pos h⟩
  intro hpos n e he hrefused
  obtain ⟨hrequest, hanswer⟩ := charge_of_log he
  rw [run_take_succ hrequest]
  refine untouched_of_refused ?_ (hanswer.trans hrefused)
  rwa [budget_run]

/-- One request a minute: without the refused request of one client, all other answers of
both clients are the same. -/
theorem refused_without_effect_of_two_clients :
    [("b", 0), ("a", 0), ("a", 10), ("a", 60000)].Pairwise (·.2 ≤ ·.2) ∧
      (new 1).log [("b", 0), ("a", 0), ("a", 10), ("a", 60000)] =
        [⟨"b", 0, true⟩, ⟨"a", 0, true⟩, ⟨"a", 10, false⟩, ⟨"a", 60000, true⟩] ∧
      (new 1).log [("b", 0), ("a", 0), ("a", 60000)] =
        [⟨"b", 0, true⟩, ⟨"a", 0, true⟩, ⟨"a", 60000, true⟩] ∧
      Untouched "a" 10 ((new 1).run [("b", 0), ("a", 0)]).2
        ((new 1).run [("b", 0), ("a", 0), ("a", 10)]).2 := by
  have sorted : [("b", 0), ("a", 0), ("a", 10), ("a", 60000)].Pairwise (·.2 ≤ ·.2) := by decide
  have hprune : ({ budget := 1 } : Limiter).prune 0 = { budget := 1 } := prune_of_lt (by decide)
  have hlog : (new 1).log [("b", 0), ("a", 0), ("a", 10), ("a", 60000)] =
      [⟨"b", 0, true⟩, ⟨"a", 0, true⟩, ⟨"a", 10, false⟩, ⟨"a", 60000, true⟩] := by
    simp [passes_charge, windows_charge_self, windows_charge_other, hprune, new, Window.current,
      Window.counted, Window.start, Window.isLive, Window.length]
  have hentry := congrArg (·[2]?) hlog
  obtain ⟨hstruck, huntouched, -⟩ := refused_without_effect 1 _ sorted
  refine ⟨sorted, hlog, ?_, huntouched (by decide) 2 _ hentry rfl⟩
  have hrest := hstruck 2 _ hentry rfl
  rwa [hlog] at hrest

end Limiter

end PairQuote
