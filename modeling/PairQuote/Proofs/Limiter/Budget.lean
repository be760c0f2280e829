import PairQuote.Proofs.Limiter.Isolation

/-! # What a client may ask for

The window after the last one starts with a request, so where the windows of a client lie
depends on its requests.  Three bounds hold wherever they lie (`BudgetLaw`): in each window
the first requests pass, as many as the budget; in any interval of a window's length at most
twice the budget passes; and a request is refused only if the whole budget passed in the
last minute.

All three come from two facts about the visits of a client: a time lies in one of the
windows only (`within_started`), and of the visits to one window the first ones pass
(`Window.allowed_visits`).  An interval of a window's length meets at most two windows, one
that started before it and one that starts in it.
-/
namespace PairQuote

namespace Window
variable {budget : Nat} {times : List Nat}

/-- Whether a time is less than a window's length after another. -/
def within (start time : Nat) : Bool := start ≤ time ∧ time < start + length

theorem within_iff {start time : Nat} :
    within start time = true ↔ start ≤ time ∧ time < start + length :=
  decide_eq_true_iff

/-! ## Counting the answers -/

theorem answers_add (used m n : Nat) :
    answers budget used (m + n) = answers budget used m ++ answers budget (used + m) n := by
  rw [answers, List.range_add, List.map_append, List.map_map]
  refine congrArg (answers budget used m ++ ·) (List.map_congr_left fun i _ => ?_)
  exact congrArg (fun k => decide (k < budget)) (Nat.add_assoc used m i).symm

theorem eq_of_getElem?_answers {used n i : Nat} {allowed : Bool}
    (h : (answers budget used n)[i]? = some allowed) : allowed = decide (used + i < budget) := by
  rw [answers, List.getElem?_map] at h
  obtain ⟨j, hj, rfl⟩ := Option.map_eq_some_iff.mp h
  obtain ⟨-, rfl⟩ := List.getElem?_eq_some_iff.mp hj
  rw [List.getElem_range]

/-- Of `n` visits to one window as many pass as there is room for. -/
theorem countP_answers (used n : Nat) :
    (answers budget used n).countP id = min n (budget - used) := by
  induction n generalizing used with
  | zero => exact (Nat.zero_min _).symm
  | succ n ih =>
    rw [answers_succ, List.countP_cons, ih]
    by_cases h : used < budget
    · rw [decide_eq_true h]
      change min n (budget - (used + 1)) + 1 = min (n + 1) (budget - used)
      omega
    · rw [decide_eq_false h]
      change min n (budget - (used + 1)) + 0 = min (n + 1) (budget - used)
      omega

/-! ## Times and windows

From here on the visits are those of a client that the limiter has not seen before. -/

theorem bounds_of_mem (sorted : times.Pairwise (· ≤ ·)) {v : Visit}
    (hv : v ∈ visits budget none times) : v.started ≤ v.time ∧ v.time < v.started + length :=
  mem_visits budget sorted (fun _ hnone => by cases hnone) v hv

theorem allowed_started (budget : Nat) (times : List Nat) (s : Nat) :
    ((visits budget none times).filter (·.started = s)).map Visit.allowed =
      answers budget 0 ((visits budget none times).filter (·.started = s)).length :=
  allowed_visits budget none times s

theorem countP_allowed_started (budget : Nat) (times : List Nat) (s : Nat) :
    ((visits budget none times).filter (·.started = s)).countP Visit.allowed =
      min ((visits budget none times).filter (·.started = s)).length budget := by
  have hanswers := congrArg (List.countP id) (allowed_started budget times s)
  rw [List.countP_map, countP_answers] at hanswers
  exact hanswers

/-- Windows that start less than a length apart are the same. -/
theorem started_eq {v v' : Visit} (hv : v ∈ visits budget none times)
    (hv' : v' ∈ visits budget none times) (h : v.started < v'.started + length)
    (h' : v'.started < v.started + length) : v.started = v'.started := by
  rcases visits_apart budget hv hv' with hsame | hafter | hbefore
  · exact hsame
  · exact absurd h' (Nat.not_lt.mpr hafter)
  · exact absurd h (Nat.not_lt.mpr hbefore)

/-- A visit is made within a window only if it is a visit to this window. -/
theorem within_started (sorted : times.Pairwise (· ≤ ·)) {v v' : Visit}
    (hv : v ∈ visits budget none times) (hv' : v' ∈ visits budget none times) :
    within v'.started v.time = decide (v.started = v'.started) := by
  obtain ⟨hstart, hend⟩ := bounds_of_mem sorted hv
  refine decide_eq_decide.mpr ⟨?_, ?_⟩
  · rintro ⟨hle, hlt⟩
    exact started_eq hv hv' (Nat.lt_of_le_of_lt hstart hlt) (Nat.lt_of_le_of_lt hle hend)
  · intro h
    rw [← h]
    exact ⟨hstart, hend⟩

/-- **In each window the first visits pass**, as many as the budget. -/
theorem allowed_within (sorted : times.Pairwise (· ≤ ·)) {v : Visit}
    (hv : v ∈ visits budget none times) :
    ((visits budget none times).filter (within v.started ·.time)).map Visit.allowed =
      answers budget 0 ((visits budget none times).filter (within v.started ·.time)).length := by
  have hsame : (visits budget none times).filter (within v.started ·.time) =
      (visits budget none times).filter (·.started = v.started) :=
    List.filter_congr fun v' hv' => within_started sorted hv' hv
  rw [hsame]
  exact allowed_started budget times v.started

/-- Visits that are all to one window pass no more often than the budget. -/
theorem countP_filter_le (p : Visit → Bool)
    (hsame : ∀ v ∈ visits budget none times, ∀ v' ∈ visits budget none times,
      p v = true → p v' = true → v.started = v'.started) :
    ((visits budget none times).filter p).countP Visit.allowed ≤ budget := by
  by_cases h : ∃ v ∈ visits budget none times, p v = true
  · obtain ⟨v, hv, hpv⟩ := h
    have hsub : ((visits budget none times).filter p).countP Visit.allowed ≤
        ((visits budget none times).filter (·.started = v.started)).countP Visit.allowed := by
      rw [List.countP_filter, List.countP_filter]
      refine List.countP_mono_left fun v' hv' hpass => ?_
      obtain ⟨hallowed, hpv'⟩ := Bool.and_eq_true_iff.mp hpass
      rw [hallowed, decide_eq_true (hsame v' hv' v hv hpv' hpv)]
      rfl
    have hcount : ((visits budget none times).filter (·.started = v.started)).countP
        Visit.allowed ≤ budget := by
      rw [countP_allowed_started]
      exact Nat.min_le_right _ _
    exact Nat.le_trans hsub hcount
  · have hnone : (visits budget none times).filter p = [] :=
      List.filter_eq_nil_iff.mpr fun v hv hpv => h ⟨v, hv, hpv⟩
    rw [hnone]
    exact Nat.zero_le budget

/-- **An interval of a window's length meets at most two windows**, so no more than twice
the budget passes in it. -/
theorem countP_within_le (sorted : times.Pairwise (· ≤ ·)) (start : Nat) :
    (visits budget none times).countP (fun v => within start v.time && v.allowed) ≤
      2 * budget := by
  -- one window started before the interval, the other starts in it
  have hbefore : ((visits budget none times).filter fun v =>
      decide (v.started < start) && within start v.time).countP Visit.allowed ≤ budget := by
    refine countP_filter_le _ fun v hv v' hv' hp hp' => ?_
    rw [Bool.and_eq_true_iff, decide_eq_true_iff, within_iff] at hp hp'
    have hin := bounds_of_mem sorted hv
    have hin' := bounds_of_mem sorted hv'
    exact started_eq hv hv' (by omega) (by omega)
  have hafter : ((visits budget none times).filter fun v =>
      !decide (v.started < start) && within start v.time).countP Visit.allowed ≤ budget := by
    refine countP_filter_le _ fun v hv v' hv' hp hp' => ?_
    rw [Bool.and_eq_true_iff, Bool.not_eq_true', decide_eq_false_iff_not, within_iff] at hp hp'
    have hin := bounds_of_mem sorted hv
    have hin' := bounds_of_mem sorted hv'
    exact started_eq hv hv' (by omega) (by omega)
  have hsplit := List.countP_eq_countP_filter_add
    ((visits budget none times).filter fun v => within start v.time) Visit.allowed
    fun v => decide (v.started < start)
  rw [List.filter_filter, List.filter_filter, List.countP_filter] at hsplit
  simp only [Bool.and_comm (within start _)]
  omega

/-- Before a visit is refused, the budget was spent in its own window. -/
theorem budget_le_countP_started {before after : List Visit} {v : Visit}
    (h : visits budget none times = before ++ v :: after) (hrefused : v.allowed = false) :
    budget ≤ (before.filter (·.started = v.started)).countP Visit.allowed := by
  have hpattern := allowed_started budget times v.started
  rw [h, List.filter_append, List.filter_cons_of_pos (by simp), List.map_append, List.map_cons,
    List.length_append, List.length_cons, answers_add, answers_succ] at hpattern
  obtain ⟨hbefore, hrest⟩ := List.append_inj hpattern (by simp [answers])
  have hspent : budget ≤ (before.filter (·.started = v.started)).length := by
    have hanswer := (List.cons.inj hrest).1
    rw [hrefused, eq_comm, decide_eq_false_iff_not] at hanswer
    omega
  have hanswers := congrArg (List.countP id) hbefore
  rw [List.countP_map, countP_answers] at hanswers
  refine Nat.le_trans ?_ (Nat.le_of_eq hanswers.symm)
  omega

/-- **A visit is refused only if the budget was spent** within the last minute. -/
theorem budget_le_countP (sorted : times.Pairwise (· ≤ ·)) {before after : List Visit}
    {v : Visit} (h : visits budget none times = before ++ v :: after)
    (hrefused : v.allowed = false) :
    budget ≤ before.countP fun u => within u.time v.time && u.allowed := by
  have hcount := budget_le_countP_started h hrefused
  rw [List.countP_filter] at hcount
  -- what passed in this window did so no later than now, and the window has not ended
  refine Nat.le_trans hcount (List.countP_mono_left fun u hu hpass => ?_)
  obtain ⟨hallowed, hsame⟩ := Bool.and_eq_true_iff.mp hpass
  have hmem : ∀ x ∈ before ++ v :: after, x.started ≤ x.time ∧ x.time < x.started + length := by
    rw [← h]
    exact fun x hx => bounds_of_mem sorted hx
  have hu' := hmem u (List.mem_append_left _ hu)
  have hv' := hmem v (List.mem_append_right _ List.mem_cons_self)
  have hle : u.time ≤ v.time := by
    have hsorted := sorted
    rw [← map_time_visits budget none times, h, List.pairwise_map] at hsorted
    exact (List.pairwise_append.mp hsorted).2.2 u hu v List.mem_cons_self
  rw [hallowed, Bool.and_true, within_iff]
  have hstarted := of_decide_eq_true hsame
  omega

/-- The window of an account started with one of the visits. -/
theorem started_afterVisits {own : Option Window} {w : Window}
    (h : afterVisits budget own times = some w) :
    (times = [] ∧ own = some w) ∨ ∃ v ∈ visits budget own times, v.started = w.started := by
  induction times generalizing own with
  | nil => exact .inl ⟨rfl, h⟩
  | cons now times ih =>
    refine .inr ?_
    rcases ih h with ⟨-, hown⟩ | ⟨v, hv, hstarted⟩
    · refine ⟨_, List.mem_cons_self, ?_⟩
      rw [← Option.some.inj hown, started_counted]
    · exact ⟨v, List.mem_cons_of_mem _ hv, hstarted⟩

end Window

namespace Limiter

/-- What a client can rely on in a run of a limiter that starts with nobody.  Its entries in
the log are the only ones the law speaks of. -/
structure BudgetLaw (budget : Nat) (requests : List (String × Nat)) (client : String) :
    Prop where
  /-- Each request of the client is made within the window that the table has for it then. -/
  falls : ∀ n now, requests[n]? = some (client, now) →
    ∃ w, ((new budget).run (requests.take (n + 1))).2.windows[client]? = some w ∧
      Window.within w.started now = true
  /-- Of the requests within a window of the client the first ones pass, as many as the
  budget, and no others. -/
  first : ∀ n w, ((new budget).run (requests.take n)).2.windows[client]? = some w →
    ∀ i e, ((entriesOf client ((new budget).log requests)).filter
      (Window.within w.started ·.time))[i]? = some e → e.allowed = decide (i < budget)
  /-- In an interval of a window's length no more than twice the budget passes. -/
  twice : ∀ start, (entriesOf client ((new budget).log requests)).countP
    (fun e => Window.within start e.time && e.allowed) ≤ 2 * budget
  /-- When a request is refused, the budget has passed less than a window's length ago. -/
  spent : ∀ before e after,
    entriesOf client ((new budget).log requests) = before ++ e :: after → e.allowed = false →
      budget ≤ before.countP fun f => Window.within f.time e.time && f.allowed

variable {budget : Nat} {client : String} {requests : List (String × Nat)}

theorem sorted_timesOf (client : String) (sorted : requests.Pairwise (·.2 ≤ ·.2)) :
    (timesOf client requests).Pairwise (· ≤ ·) :=
  List.pairwise_map.mpr (sorted_requestsOf client sorted)

theorem timesOf_append (client : String) (first second : List (String × Nat)) :
    timesOf client (first ++ second) = timesOf client first ++ timesOf client second := by
  rw [timesOf, requestsOf, List.filter_append, List.map_append]
  rfl

/-- A window of the table started with a visit of its client. -/
theorem started_run (sorted : requests.Pairwise (·.2 ≤ ·.2)) {w : Window}
    (h : ((new budget).run requests).2.windows[client]? = some w) :
    ∃ v ∈ Window.visits budget none (timesOf client requests), v.started = w.started := by
  obtain ⟨last, htracks⟩ := run_tracks sorted (fun _ _ => Nat.zero_le _) (tracks_new budget client)
  rcases Window.started_afterVisits (htracks.own_of_entry w h) with ⟨-, hnone⟩ | hvisit
  · cases hnone
  · exact hvisit

/-- A request is made within the window that the table has for its client afterwards. -/
theorem within_run {now : Nat}
    (sorted : (requests ++ [(client, now)]).Pairwise (·.2 ≤ ·.2)) :
    ∃ w, ((new budget).run (requests ++ [(client, now)])).2.windows[client]? = some w ∧
      Window.within w.started now = true := by
  obtain ⟨hsorted, -, hle⟩ := List.pairwise_append.mp sorted
  have hpast : ∀ w, ((new budget).run requests).2.windows[client]? = some w → w.started ≤ now := by
    intro w hw
    obtain ⟨v, hv, hstarted⟩ := started_run hsorted hw
    have hbounds := Window.bounds_of_mem (sorted_timesOf client hsorted) hv
    have htime : v.time ∈ timesOf client requests := by
      have hmem := List.mem_map_of_mem (f := Visit.time) hv
      rwa [Window.map_time_visits] at hmem
    obtain ⟨request, hrequest, heq⟩ := List.mem_map.mp htime
    have hnow := hle request (List.mem_filter.mp hrequest).1 (client, now) List.mem_cons_self
    change request.2 ≤ now at hnow
    omega
  have hentry := windows_charge_self ((new budget).run requests).2 client now
  rw [run_append, run_cons, run_nil]
  refine ⟨_, hentry, ?_⟩
  rw [Window.started_counted, Window.within_iff]
  exact Window.current_bounds now hpast

theorem mem_visits_of_take {n : Nat} {v : Visit}
    (hv : v ∈ Window.visits budget none (timesOf client (requests.take n))) :
    v ∈ Window.visits budget none (timesOf client requests) := by
  have hsplit := timesOf_append client (requests.take n) (requests.drop n)
  rw [List.take_append_drop] at hsplit
  rw [hsplit, Window.visits_append]
  exact List.mem_append_left _ hv

/-- **The budget law** holds for every client in every run at never decreasing times, no
matter who else is served and when the table is pruned. -/
theorem budgetLaw (budget : Nat) (requests : List (String × Nat))
    (sorted : requests.Pairwise (·.2 ≤ ·.2)) (client : String) :
    BudgetLaw budget requests client := by
  have hown := entriesOf_log_new budget client sorted
  have htimes := sorted_timesOf client sorted
  constructor
  · intro n now hnow
    have htake : requests.take (n + 1) = requests.take n ++ [(client, now)] := by
      rw [List.take_add_one, hnow]
      rfl
    have hsorted := sorted.sublist (List.take_sublist (n + 1) requests)
    rw [htake] at hsorted ⊢
    exact within_run hsorted
  · intro n w hw i e he
    obtain ⟨v, hv, hstarted⟩ := started_run (sorted.sublist (List.take_sublist n requests)) hw
    have hanswers := Window.allowed_within htimes (mem_visits_of_take hv)
    rw [hown, List.filter_map, List.getElem?_map] at he
    obtain ⟨v', hv', rfl⟩ := Option.map_eq_some_iff.mp he
    have hanswer := congrArg (·[i]?) hanswers
    rw [hstarted, List.getElem?_map] at hanswer
    change (List.filter (Window.within w.started ·.time) _)[i]? = some v' at hv'
    rw [hv'] at hanswer
    have := Window.eq_of_getElem?_answers hanswer.symm
    rwa [Nat.zero_add] at this
  · intro start
    rw [hown, List.countP_map]
    exact Window.countP_within_le htimes start
  · intro before e after hsplit hrefused
    rw [hown] at hsplit
    obtain ⟨visited, rest, hvisits, rfl, hrest⟩ := List.map_eq_append_iff.mp hsplit
    obtain ⟨v, later, rfl, rfl, rfl⟩ := List.map_eq_cons_iff.mp hrest
    rw [List.countP_map]
    exact Window.budget_le_countP htimes hvisits hrefused

/-- Two requests a minute: the third waits for the next window. -/
theorem budgetLaw_of_four_requests :
    [("a", 0), ("a", 0), ("b", 10), ("a", 59999), ("a", 60000)].Pairwise (·.2 ≤ ·.2) ∧
      BudgetLaw 2 [("a", 0), ("a", 0), ("b", 10), ("a", 59999), ("a", 60000)] "a" ∧
      entriesOf "a" ((new 2).log [("a", 0), ("a", 0), ("b", 10), ("a", 59999), ("a", 60000)]) =
        [⟨"a", 0, true⟩, ⟨"a", 0, true⟩, ⟨"a", 59999, false⟩, ⟨"a", 60000, true⟩] := by
  have sorted : [("a", 0), ("a", 0), ("b", 10), ("a", 59999), ("a", 60000)].Pairwise
      (·.2 ≤ ·.2) := by decide
  refine ⟨sorted, budgetLaw 2 _ sorted "a", ?_⟩
  rw [entriesOf_log_new 2 "a" sorted]
  decide

end Limiter

end PairQuote
