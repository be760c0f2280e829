import PairQuote.Proofs.Limiter.Account

/-! # The visits of one client

A client alone, at given times: each request is a **visit** to the window it falls into.
Three facts say how the visits lie.

* `mem_visits`: a visit is at most a window's length after the start of its window.
* `visits_apart`: two windows are the same or at least a window's length apart.
* `allowed_visits`: of the visits to one window the first ones pass, as many as the budget,
  and no others.
-/
namespace PairQuote

/-- A request: when it is made, when its window started and whether it passes. -/
structure Visit where
  time : Nat
  started : Nat
  allowed : Bool
  deriving DecidableEq, Repr

/-- Two visits are to one window, or to windows that do not overlap. -/
def Visit.Apart (v v' : Visit) : Prop :=
  v.started = v'.started ∨ v.started + Window.length ≤ v'.started ∨
    v'.started + Window.length ≤ v.started

namespace Window
variable (budget : Nat)

/-- The requests of a client at given times, with the window before the first. -/
def visits : Option Window → List Nat → List Visit
  | _, [] => []
  | own, now :: times =>
    ⟨now, (current now own).started, decide ((current now own).requests < budget)⟩ ::
      visits (some ((current now own).counted budget)) times

/-- The window after requests at given times. -/
def afterVisits (own : Option Window) (times : List Nat) : Option Window :=
  times.foldl (fun own now => some ((current now own).counted budget)) own

theorem visits_append (own : Option Window) (first second : List Nat) :
    visits budget own (first ++ second) =
      visits budget own first ++ visits budget (afterVisits budget own first) second := by
  induction first generalizing own with
  | nil => rfl
  | cons now first ih => exact congrArg (_ :: ·) (ih _)

/-- Every visit is at one of the times. -/
theorem map_time_visits (own : Option Window) (times : List Nat) :
    (visits budget own times).map Visit.time = times := by
  induction times generalizing own with
  | nil => rfl
  | cons now times ih => exact congrArg (now :: ·) (ih _)

/-! ## Where a window starts -/

/-- The window of a request is the last one, still live, or starts with the request. -/
theorem current_cases (now : Nat) (own : Option Window) :
    (∃ w, own = some w ∧ w.isLive now = true ∧ current now own = w) ∨
      (∀ w, own = some w → w.isLive now = false) ∧ current now own = start now := by
  cases own with
  | none => exact .inr ⟨nofun, rfl⟩
  | some w =>
    cases h : w.isLive now with
    | true => exact .inl ⟨w, rfl, h, current_of_live h⟩
    | false =>
      refine .inr ⟨?_, current_of_ended h⟩
      intro w' hw
      cases hw
      exact h

/-- The window of a request has started and has not ended. -/
theorem current_bounds (now : Nat) {own : Option Window}
    (hpast : ∀ w, own = some w → w.started ≤ now) :
    (current now own).started ≤ now ∧ now < (current now own).started + length := by
  rcases current_cases now own with ⟨w, hown, hlive, hcur⟩ | ⟨-, hcur⟩
  · rw [hcur]
    rw [isLive_iff] at hlive
    have hle := hpast w hown
    omega
  · rw [hcur]
    exact ⟨Nat.le_refl now, Nat.lt_add_of_pos_right (by decide)⟩

/-- A visit lies in its window. -/
theorem mem_visits {own : Option Window} {times : List Nat} (sorted : times.Pairwise (· ≤ ·))
    (hpast : ∀ w, own = some w → ∀ now ∈ times, w.started ≤ now) :
    ∀ v ∈ visits budget own times, v.started ≤ v.time ∧ v.time < v.started + length := by
  induction times generalizing own with
  | nil => exact nofun
  | cons now times ih =>
    obtain ⟨hnow, hsorted⟩ := List.pairwise_cons.mp sorted
    have hbounds := current_bounds now fun w hw => hpast w hw now List.mem_cons_self
    intro v hv
    rcases List.mem_cons.mp hv with rfl | hv
    · exact hbounds
    · refine ih hsorted ?_ v hv
      intro w hw later hlater
      cases hw
      rw [started_counted]
      exact Nat.le_trans hbounds.1 (hnow later hlater)

/-- A window that has ended did so a whole length after its start. -/
theorem ended_le {now : Nat} {w : Window} (h : w.isLive now = false) :
    w.started + length ≤ now := by
  have hlive : ¬w.isLive now = true := by rw [h]; exact Bool.false_ne_true
  rw [isLive_iff] at hlive
  have hpos : 0 < length := by decide
  omega

/-- The windows to come start with the last one or after its end. -/
theorem started_visits {w : Window} {times : List Nat} :
    ∀ v ∈ visits budget (some w) times,
      v.started = w.started ∨ w.started + length ≤ v.started := by
  induction times generalizing w with
  | nil => exact nofun
  | cons now times ih =>
    intro v hv
    rcases current_cases now (some w) with ⟨_, ⟨⟩, -, hcur⟩ | ⟨hended, hcur⟩
    · rcases List.mem_cons.mp hv with rfl | hv
      · exact .inl (congrArg started hcur)
      · rw [hcur] at hv
        simpa using ih v hv
    · -- the window ended, so the new one and all after it start late enough
      have hlate := ended_le (hended w rfl)
      rcases List.mem_cons.mp hv with rfl | hv
      · rw [hcur]
        exact .inr hlate
      · rw [hcur] at hv
        have hnew := ih v hv
        rw [started_counted] at hnew
        change v.started = now ∨ now + length ≤ v.started at hnew
        omega

theorem pairwise_visits (own : Option Window) (times : List Nat) :
    (visits budget own times).Pairwise fun v v' =>
      v.started = v'.started ∨ v.started + length ≤ v'.started := by
  induction times generalizing own with
  | nil => exact .nil
  | cons now times ih =>
    refine .cons ?_ (ih _)
    intro v hv
    have hstarted := started_visits budget v hv
    rw [started_counted] at hstarted
    exact hstarted.imp_left Eq.symm

/-- **Two windows are the same or do not overlap.** -/
theorem visits_apart {own : Option Window} {times : List Nat} {v v' : Visit}
    (hv : v ∈ visits budget own times) (hv' : v' ∈ visits budget own times) : v.Apart v' := by
  have hpairs := pairwise_visits budget own times
  refine List.Pairwise.forall_of_forall_of_flip (R := Visit.Apart) (fun _ _ => .inl rfl)
    (hpairs.imp ?_) (hpairs.imp ?_) hv hv'
  · intro x y h
    exact h.imp_right .inl
  · intro x y h
    exact h.elim (fun h => .inl h.symm) (fun h => .inr (.inr h))

/-! ## Which visits pass -/

/-- How many requests the last window has let pass, if it started at `s`. -/
def used (s : Nat) : Option Window → Nat
  | some w => if w.started = s then w.requests else 0
  | none => 0

theorem used_current {now s : Nat} {own : Option Window} (h : (current now own).started = s) :
    used s own = (current now own).requests := by
  rcases current_cases now own with ⟨w, rfl, -, hcur⟩ | ⟨hended, hcur⟩
  · rw [hcur] at h ⊢
    exact if_pos h
  · rw [hcur] at h ⊢
    cases own with
    | none => rfl
    | some w =>
      have hlate := ended_le (hended w rfl)
      have hpos : 0 < length := by decide
      refine if_neg ?_
      change now = s at h
      omega

/-- The answers to `n` visits in a row to a window that has let `used` requests pass. -/
def answers (used n : Nat) : List Bool := (List.range n).map fun i => decide (used + i < budget)

theorem answers_succ (used n : Nat) :
    answers budget used (n + 1) = decide (used < budget) :: answers budget (used + 1) n := by
  rw [answers, List.range_succ_eq_map, List.map_cons, List.map_map]
  refine congrArg (decide (used < budget) :: ·) (List.map_congr_left fun i _ => ?_)
  exact congrArg (fun k => decide (k < budget)) (by omega)

/-- Once the budget is spent, how much more was asked for makes no difference. -/
theorem answers_counted (w : Window) (n : Nat) :
    answers budget (w.counted budget).requests n = answers budget (w.requests + 1) n := by
  unfold counted
  split
  · rfl
  · refine List.map_congr_left fun i _ => ?_
    rw [decide_eq_false (by omega), decide_eq_false (by omega)]

/-- **Of the visits to one window the first ones pass**, as many as the budget still has
room for. -/
theorem allowed_visits (own : Option Window) (times : List Nat) (s : Nat) :
    ((visits budget own times).filter (·.started = s)).map Visit.allowed =
      answers budget (used s own) ((visits budget own times).filter (·.started = s)).length := by
  induction times generalizing own with
  | nil => rfl
  | cons now times ih =>
    have hrest := ih (some ((current now own).counted budget))
    unfold visits
    by_cases hs : (current now own).started = s
    · have hcounted : used s (some ((current now own).counted budget)) =
          ((current now own).counted budget).requests :=
        if_pos (by rw [started_counted, hs])
      rw [hcounted, answers_counted] at hrest
      rw [List.filter_cons_of_pos (by simpa using hs), List.map_cons, hrest, List.length_cons,
        answers_succ, used_current hs]
    · have hcounted : used s (some ((current now own).counted budget)) = 0 :=
        if_neg (by rwa [started_counted])
      rw [hcounted] at hrest
      rw [List.filter_cons_of_neg (by simpa using hs), hrest]
      rcases current_cases now own with ⟨w, rfl, -, hcur⟩ | ⟨hended, hcur⟩
      · rw [hcur] at hs
        rw [used, if_neg hs]
      · -- a window that has ended is never visited again
        cases own with
        | none => rfl
        | some w =>
          by_cases hw : w.started = s
          · have hnone : (visits budget (some ((current now (some w)).counted budget))
                times).filter (·.started = s) = [] := by
              refine List.filter_eq_nil_iff.mpr fun v hv => ?_
              have hlate := ended_le (hended w rfl)
              have hstarted := started_visits budget v hv
              rw [started_counted, hcur] at hstarted
              change v.started = now ∨ now + length ≤ v.started at hstarted
              have hpos : 0 < length := by decide
              rw [decide_eq_true_iff]
              omega
            rw [hnone]
            rfl
          · rw [used, if_neg hw]

end Window

end PairQuote
