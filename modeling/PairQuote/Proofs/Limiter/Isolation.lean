import PairQuote.Proofs.Limiter.Visits

/-! # Clients do not feel each other

The **log** of a run has an entry for each request, with its answer.  `log_client` reads a
client off the log: its entries are the visits it would make alone, at its own times,
whatever the other clients do and whenever the table is pruned.

The main statement, `log_isolated`, compares two runs of the limiter itself: the entries of
a client in a run with everybody are the log of a run with this client only.  The latter
never holds a second window, so it never prunes.
-/
namespace PairQuote

/-- A request of a client with its answer. -/
structure LogEntry where
  client : String
  time : Nat
  allowed : Bool
  deriving DecidableEq, Repr

/-- A visit in the log. -/
def Visit.entry (client : String) (v : Visit) : LogEntry := ⟨client, v.time, v.allowed⟩

namespace Limiter

/-- The requests of a run with their answers. -/
def log (l : Limiter) (requests : List (String × Nat)) : List LogEntry :=
  List.zipWith (fun request allowed => ⟨request.1, request.2, allowed⟩) requests
    (l.run requests).1

/-- The requests of one client. -/
def requestsOf (client : String) (requests : List (String × Nat)) : List (String × Nat) :=
  requests.filter (·.1 = client)

/-- The times at which a client makes requests. -/
def timesOf (client : String) (requests : List (String × Nat)) : List Nat :=
  (requestsOf client requests).map Prod.snd

/-- The entries of one client. -/
def entriesOf (client : String) (log : List LogEntry) : List LogEntry :=
  log.filter (·.client = client)

/-! ## A run, step by step -/

variable {l : Limiter} {client : String} {now : Nat} {requests : List (String × Nat)}

@[simp] theorem log_nil : l.log [] = [] := rfl

@[simp] theorem log_cons (who : String) (now : Nat) : l.log ((who, now) :: requests) =
    ⟨who, now, (l.charge who now).1⟩ :: (l.charge who now).2.log requests := rfl

/-- Every request is in the log, in turn. -/
theorem map_request_log : (l.log requests).map (fun e => (e.client, e.time)) = requests := by
  induction requests generalizing l with
  | nil => rfl
  | cons request requests ih => exact congrArg (request :: ·) ih

/-- The answers in the log are those of the run. -/
theorem map_allowed_log : (l.log requests).map LogEntry.allowed = (l.run requests).1 := by
  induction requests generalizing l with
  | nil => rfl
  | cons request requests ih => exact congrArg (_ :: ·) ih

@[simp] theorem run_nil : (l.run []).2 = l := rfl

@[simp] theorem run_cons (who : String) (now : Nat) :
    (l.run ((who, now) :: requests)).2 = ((l.charge who now).2.run requests).2 := rfl

theorem run_append (first second : List (String × Nat)) :
    (l.run (first ++ second)).2 = ((l.run first).2.run second).2 := by
  induction first generalizing l with
  | nil => rfl
  | cons request first ih => exact ih

theorem run_take_succ {n : Nat} (h : requests[n]? = some (client, now)) :
    (l.run (requests.take (n + 1))).2 = ((l.run (requests.take n)).2.charge client now).2 := by
  rw [List.take_add_one, h, Option.toList_some, run_append, run_cons, run_nil]

@[simp] theorem budget_run (l : Limiter) (requests : List (String × Nat)) :
    (l.run requests).2.budget = l.budget := by
  induction requests generalizing l with
  | nil => rfl
  | cons request requests ih =>
    rw [run_cons, ih, budget_charge]

theorem timesOf_cons_self : timesOf client ((client, now) :: requests) =
    now :: timesOf client requests := by
  rw [timesOf, requestsOf, List.filter_cons_of_pos (by simp)]
  rfl

theorem timesOf_cons_other {who : String} (h : who ≠ client) :
    timesOf client ((who, now) :: requests) = timesOf client requests := by
  rw [timesOf, requestsOf, List.filter_cons_of_neg (by simpa using h)]
  rfl

theorem entriesOf_log_cons_self : entriesOf client (l.log ((client, now) :: requests)) =
    ⟨client, now, (l.charge client now).1⟩ ::
      entriesOf client ((l.charge client now).2.log requests) := by
  rw [log_cons, entriesOf, List.filter_cons_of_pos (by simp)]
  rfl

theorem entriesOf_log_cons_other {who : String} (h : who ≠ client) :
    entriesOf client (l.log ((who, now) :: requests)) =
      entriesOf client ((l.charge who now).2.log requests) := by
  rw [log_cons, entriesOf, List.filter_cons_of_neg (by simpa using h)]
  rfl

/-! ## The account of a client along a run -/

/-- **A client's entries are its visits alone.** -/
theorem log_client {own : Option Window} {start : Nat}
    (sorted : requests.Pairwise (·.2 ≤ ·.2)) (hstart : ∀ request ∈ requests, start ≤ request.2)
    (htracks : Tracks start l.windows[client]? own) :
    entriesOf client (l.log requests) =
      (Window.visits l.budget own (timesOf client requests)).map (Visit.entry client) := by
  induction requests generalizing l own start with
  | nil => rfl
  | cons request requests ih =>
    obtain ⟨who, now⟩ := request
    obtain ⟨hnow, hsorted⟩ := List.pairwise_cons.mp sorted
    have htracks := htracks.of_le (hstart _ List.mem_cons_self)
    by_cases hwho : who = client
    · subst hwho
      have hrest := ih hsorted hnow htracks.charge_self
      rw [budget_charge] at hrest
      rw [entriesOf_log_cons_self, timesOf_cons_self, hrest, passes_charge, htracks.current_eq]
      rfl
    · have hrest := ih hsorted hnow (htracks.charge_other (Ne.symm hwho))
      rw [budget_charge] at hrest
      rw [entriesOf_log_cons_other hwho, timesOf_cons_other hwho, hrest]

/-- The table tracks the client's account all along. -/
theorem run_tracks {own : Option Window} {start : Nat} (sorted : requests.Pairwise (·.2 ≤ ·.2))
    (hstart : ∀ request ∈ requests, start ≤ request.2)
    (htracks : Tracks start l.windows[client]? own) :
    ∃ last, Tracks last (l.run requests).2.windows[client]?
      (Window.afterVisits l.budget own (timesOf client requests)) := by
  induction requests generalizing l own start with
  | nil => exact ⟨start, htracks⟩
  | cons request requests ih =>
    obtain ⟨who, now⟩ := request
    obtain ⟨hnow, hsorted⟩ := List.pairwise_cons.mp sorted
    have htracks := htracks.of_le (hstart _ List.mem_cons_self)
    by_cases hwho : who = client
    · subst hwho
      obtain ⟨last, hrest⟩ := ih hsorted hnow htracks.charge_self
      rw [budget_charge] at hrest
      rw [timesOf_cons_self]
      exact ⟨last, hrest⟩
    · obtain ⟨last, hrest⟩ := ih hsorted hnow (htracks.charge_other (Ne.symm hwho))
      rw [budget_charge] at hrest
      rw [timesOf_cons_other hwho]
      exact ⟨last, hrest⟩

/-- A limiter that has seen nobody tracks empty accounts. -/
theorem tracks_new (budget : Nat) (client : String) :
    Tracks 0 (new budget).windows[client]? none := by
  have hnone : (new budget).windows[client]? = none := Std.HashMap.getElem?_empty
  rw [hnone]
  exact Tracks.refl 0 none

/-- The entries of a client in a run from the start. -/
theorem entriesOf_log_new (budget : Nat) (client : String)
    (sorted : requests.Pairwise (·.2 ≤ ·.2)) :
    entriesOf client ((new budget).log requests) =
      (Window.visits budget none (timesOf client requests)).map (Visit.entry client) :=
  log_client sorted (fun _ _ => Nat.zero_le _) (tracks_new budget client)

/-! ## A client by itself -/

/-- Below the threshold nothing is dropped. -/
theorem prune_of_lt (h : l.tracked < pruneThreshold) : l.prune now = l := if_pos h

/-- The table knows nobody but one client. -/
structure Alone (client : String) (l : Limiter) : Prop where
  tracked_le : l.tracked ≤ 1
  tracked_of_absent : client ∉ l.windows → l.tracked = 0

namespace Alone

theorem new (client : String) (budget : Nat) : Alone client (Limiter.new budget) :=
  ⟨Nat.zero_le 1, fun _ => rfl⟩

theorem prune (h : Alone client l) (now : Nat) : l.prune now = l :=
  prune_of_lt (Nat.lt_of_le_of_lt h.tracked_le (by decide))

theorem charge (h : Alone client l) (now : Nat) : Alone client (l.charge client now).2 := by
  rw [charge_eq, h.prune]
  constructor
  · rw [tracked, Std.HashMap.size_insert]
    split
    · exact h.tracked_le
    · next habsent => exact Nat.le_of_eq (congrArg (· + 1) (h.tracked_of_absent habsent))
  · intro habsent
    exact absurd Std.HashMap.mem_insert_self habsent

theorem run (h : Alone client l) (hown : ∀ request ∈ requests, request.1 = client) :
    Alone client (l.run requests).2 := by
  induction requests generalizing l with
  | nil => exact h
  | cons request requests ih =>
    obtain ⟨who, now⟩ := request
    obtain ⟨rfl, hown⟩ := List.forall_mem_cons.mp hown
    exact ih (h.charge now) hown

end Alone

theorem client_of_mem_requestsOf {request : String × Nat}
    (h : request ∈ requestsOf client requests) : request.1 = client := by
  simpa using (List.mem_filter.mp h).2

theorem timesOf_requestsOf : timesOf client (requestsOf client requests) =
    timesOf client requests := by
  rw [timesOf, timesOf, requestsOf, requestsOf, List.filter_filter]
  simp only [Bool.and_self]

/-- In a log of one client's requests all entries are its own. -/
theorem entriesOf_log_requestsOf :
    entriesOf client (l.log (requestsOf client requests)) = l.log (requestsOf client requests) := by
  refine List.filter_eq_self.mpr fun e he => ?_
  have hmem := List.mem_map_of_mem (f := fun e : LogEntry => (e.client, e.time)) he
  rw [map_request_log] at hmem
  exact decide_eq_true (client_of_mem_requestsOf hmem)

theorem sorted_requestsOf (client : String) (sorted : requests.Pairwise (·.2 ≤ ·.2)) :
    (requestsOf client requests).Pairwise (·.2 ≤ ·.2) :=
  sorted.filter _

/-- **Clients are isolated, and pruning is not felt.**  In a run at never decreasing times
the entries of a client are the log of a fresh limiter that gets this client's requests
alone; and that limiter tracks at most one client at any moment, so it drops nothing. -/
theorem log_isolated (budget : Nat) (requests : List (String × Nat))
    (sorted : requests.Pairwise (·.2 ≤ ·.2)) (client : String) :
    entriesOf client ((new budget).log requests) =
        (new budget).log (requestsOf client requests) ∧
      ∀ n now, ((new budget).run ((requestsOf client requests).take n)).2.tracked ≤ 1 ∧
        ((new budget).run ((requestsOf client requests).take n)).2.prune now =
          ((new budget).run ((requestsOf client requests).take n)).2 := by
  constructor
  · have halone := entriesOf_log_new budget client (sorted_requestsOf client sorted)
    rw [entriesOf_log_requestsOf, timesOf_requestsOf] at halone
    rw [entriesOf_log_new budget client sorted, halone]
  · intro n now
    have hown : ∀ request ∈ (requestsOf client requests).take n, request.1 = client :=
      fun request h => client_of_mem_requestsOf (List.mem_of_mem_take h)
    have halone := (Alone.new client budget).run hown
    exact ⟨halone.tracked_le, halone.prune now⟩

/-- Two clients with one request a minute each: the second never gets in the way. -/
theorem log_isolated_of_two :
    [("a", 0), ("b", 0), ("a", 59999), ("a", 60000)].Pairwise (·.2 ≤ ·.2) ∧
      entriesOf "a" ((new 1).log [("a", 0), ("b", 0), ("a", 59999), ("a", 60000)]) =
        [⟨"a", 0, true⟩, ⟨"a", 59999, false⟩, ⟨"a", 60000, true⟩] := by
  have sorted : [("a", 0), ("b", 0), ("a", 59999), ("a", 60000)].Pairwise (·.2 ≤ ·.2) := by decide
  refine ⟨sorted, (log_isolated 1 _ sorted "a").1.trans ?_⟩
  have halone : requestsOf "a" [("a", 0), ("b", 0), ("a", 59999), ("a", 60000)] =
      [("a", 0), ("a", 59999), ("a", 60000)] := by decide
  rw [halone]
  simp [passes_charge, windows_charge_self, new, Window.current, Window.counted, Window.start,
    Window.isLive, Window.length]

end Limiter

end PairQuote
