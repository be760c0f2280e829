import PairQuote.Limiter

/-! # One client's account

Of the whole table a request looks at one entry, the window of its client, and of that only
whether it is still live.  `Limiter.charge_eq` says so once: the window a request falls into
(`Window.current`) is the live one or a new one, it is `counted`, and it replaces the entry
of the client; the other entries only go through the pruning.

So the table can be compared with an **account** that a client keeps of its own requests
alone and never prunes.  The two may differ, but only by a window that has ended
(`Tracks`), and the client cannot tell.
-/
namespace PairQuote

namespace Window

/-- The window that a request falls into, given the last one of its client. -/
def current (now : Nat) : Option Window → Window
  | some w => if w.isLive now then w else start now
  | none => start now

/-- A window after a request in it: one more, if there was room. -/
def counted (budget : Nat) (w : Window) : Window :=
  if w.requests < budget then { w with requests := w.requests + 1 } else w

theorem isLive_iff {now : Nat} {w : Window} : w.isLive now = true ↔ now - w.started < length :=
  decide_eq_true_iff

/-- A live window was live at every earlier time. -/
theorem isLive_of_le {now later : Nat} {w : Window} (hle : now ≤ later)
    (h : w.isLive later = true) : w.isLive now = true := by
  rw [isLive_iff] at h ⊢
  omega

@[simp] theorem started_counted (budget : Nat) (w : Window) :
    (w.counted budget).started = w.started := by
  unfold counted
  split <;> rfl

theorem current_of_live {now : Nat} {w : Window} (h : w.isLive now = true) :
    current now (some w) = w :=
  if_pos h

theorem current_of_ended {now : Nat} {w : Window} (h : w.isLive now = false) :
    current now (some w) = start now :=
  if_neg (by rw [h]; exact Bool.false_ne_true)

end Window

/-! ## One request -/

namespace Limiter
variable (l : Limiter) (client : String) (now : Nat)

theorem windowFor_eq : l.windowFor client now = Window.current now l.windows[client]? := by
  unfold windowFor
  cases l.windows[client]? <;> rfl

@[simp] theorem budget_prune : (l.prune now).budget = l.budget := by
  unfold prune
  split <;> rfl

/-- Pruning keeps an entry, or keeps it as far as it is live. -/
theorem windows_prune : (l.prune now).windows[client]? = l.windows[client]? ∨
    (l.prune now).windows[client]? = l.windows[client]?.filter (·.isLive now) := by
  unfold prune
  split
  · exact .inl rfl
  · exact .inr Std.HashMap.getElem?_filter'

/-- Pruning is not felt: a request falls into the same window without it. -/
theorem current_prune : Window.current now (l.prune now).windows[client]? =
    Window.current now l.windows[client]? := by
  rcases l.windows_prune client now with h | h
  · rw [h]
  · rw [h]
    cases l.windows[client]? with
    | none => rfl
    | some w =>
      cases hw : w.isLive now with
      | true => rw [Option.filter_some_pos hw]
      | false =>
        rw [Option.filter_some_neg (by simp [hw]), Window.current_of_ended hw]
        rfl

/-- **One request**: whether it passes, and the table after it. -/
theorem charge_eq : l.charge client now =
    (decide ((Window.current now l.windows[client]?).requests < l.budget),
      ⟨l.budget, (l.prune now).windows.insert client
        ((Window.current now l.windows[client]?).counted l.budget)⟩) := by
  have hwindow : (l.prune now).windowFor client now = Window.current now l.windows[client]? := by
    rw [windowFor_eq, current_prune]
  unfold charge Window.counted
  dsimp only
  rw [hwindow, budget_prune]
  by_cases h : (Window.current now l.windows[client]?).requests < l.budget
  · rw [if_pos h, if_pos h, decide_eq_true h]
  · rw [if_neg h, if_neg h, decide_eq_false h]

theorem passes_charge : (l.charge client now).1 =
    decide ((Window.current now l.windows[client]?).requests < l.budget) :=
  congrArg Prod.fst (l.charge_eq client now)

@[simp] theorem budget_charge : (l.charge client now).2.budget = l.budget := by
  rw [charge_eq]

/-- The client's own entry is the window that counted its request. -/
theorem windows_charge_self : (l.charge client now).2.windows[client]? =
    some ((Window.current now l.windows[client]?).counted l.budget) := by
  rw [charge_eq]
  exact Std.HashMap.getElem?_insert_self

/-- All other entries only go through the pruning. -/
theorem windows_charge_other {other : String} (h : other ≠ client) :
    (l.charge client now).2.windows[other]? = (l.prune now).windows[other]? := by
  rw [charge_eq]
  refine Std.HashMap.getElem?_insert.trans (if_neg ?_)
  simpa using Ne.symm h

end Limiter

/-! ## The account -/

/-- The entry that the table has for a client agrees with the client's own account, but for
a window that has ended. -/
structure Tracks (now : Nat) (entry own : Option Window) : Prop where
  own_of_entry : ∀ w, entry = some w → own = some w
  entry_of_live : ∀ w, own = some w → w.isLive now = true → entry = some w

namespace Tracks
variable {now later : Nat} {entry own : Option Window}

protected theorem refl (now : Nat) (own : Option Window) : Tracks now own own :=
  ⟨fun _ h => h, fun _ h _ => h⟩

/-- Time only ends windows. -/
theorem of_le (h : Tracks now entry own) (hle : now ≤ later) : Tracks later entry own :=
  ⟨h.own_of_entry, fun w hw hlive => h.entry_of_live w hw (Window.isLive_of_le hle hlive)⟩

/-- A request falls into the same window by the table and by the account. -/
theorem current_eq (h : Tracks now entry own) :
    Window.current now entry = Window.current now own := by
  cases hentry : entry with
  | some w => rw [h.own_of_entry w hentry]
  | none =>
    cases hown : own with
    | none => rfl
    | some w =>
      cases hw : w.isLive now with
      | false => rw [Window.current_of_ended hw]; rfl
      | true =>
        have := h.entry_of_live w hown hw
        rw [hentry] at this
        cases this

/-- The pruning drops no window that counts. -/
theorem prune {l : Limiter} {client : String} (h : Tracks now l.windows[client]? own) :
    Tracks now (l.prune now).windows[client]? own := by
  rcases l.windows_prune client now with hw | hw
  · rw [hw]
    exact h
  · rw [hw]
    constructor
    · intro w hentry
      exact h.own_of_entry w (Option.filter_eq_some_iff.mp hentry).1
    · intro w hown hlive
      exact Option.filter_eq_some_iff.mpr ⟨h.entry_of_live w hown hlive, hlive⟩

/-- A request of another client changes neither. -/
theorem charge_other {l : Limiter} {client other : String}
    (h : Tracks now l.windows[other]? own) (hne : other ≠ client) :
    Tracks now (l.charge client now).2.windows[other]? own := by
  rw [l.windows_charge_other client now hne]
  exact h.prune

/-- A request of the client itself makes the table and the account agree. -/
theorem charge_self {l : Limiter} {client : String} (h : Tracks now l.windows[client]? own) :
    Tracks now (l.charge client now).2.windows[client]?
      (some ((Window.current now own).counted l.budget)) := by
  rw [l.windows_charge_self client now, h.current_eq]
  exact Tracks.refl now _

end Tracks

end PairQuote
