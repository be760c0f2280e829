import Mathlib.Data.List.Dedup
import Mathlib.Data.List.Perm.Subperm
import PairQuote.Proofs.Limiter.Budget

/-! # How large the table grows

The table is kept small by the pruning alone, which happens only when many clients are
tracked.  Two things hold of it after every request (`TableLaw`).

* A window says something true: it started with a request of its client and has let no more
  requests pass than the budget.  This is an invariant of the run, `Sound`.
* Either few clients are tracked or all their windows are live.  One request brings this
  about whatever the table was before (`few_or_live_charge`), so nothing needs to be carried
  along.

Together they bound the table: where all windows are live, every client tracked made a
request within the last minute.
-/
namespace PairQuote

namespace Window

/-- The window that a request falls into is live. -/
theorem isLive_current (now : Nat) (own : Option Window) : (current now own).isLive now = true := by
  rcases current_cases now own with ⟨w, -, hlive, hcur⟩ | ⟨-, hcur⟩
  · rw [hcur]
    exact hlive
  · rw [hcur, isLive_iff, start, Nat.sub_self]
    decide

@[simp] theorem isLive_counted (budget now : Nat) (w : Window) :
    (w.counted budget).isLive now = w.isLive now := by
  rw [isLive, isLive, started_counted]

/-- Counting a request never exceeds the budget. -/
theorem requests_counted_le {budget : Nat} {w : Window} (h : w.requests ≤ budget) :
    (w.counted budget).requests ≤ budget := by
  unfold counted
  split
  · next hroom => exact hroom
  · exact h

end Window

namespace Limiter
variable {l : Limiter} {client : String} {now : Nat} {requests : List (String × Nat)}

/-! ## The pruned table -/

/-- Pruning adds nothing and changes nothing. -/
theorem windows_of_prune {w : Window} (h : (l.prune now).windows[client]? = some w) :
    l.windows[client]? = some w := by
  rcases l.windows_prune client now with hsame | hfilter
  · rwa [hsame] at h
  · rw [hfilter] at h
    exact (Option.filter_eq_some_iff.mp h).1

/-- A table with many clients is pruned to its live windows. -/
theorem isLive_of_prune {w : Window} (hmany : pruneThreshold ≤ l.tracked)
    (h : (l.prune now).windows[client]? = some w) : w.isLive now = true := by
  unfold prune at h
  rw [if_neg (Nat.not_lt.mpr hmany)] at h
  have hfilter : l.windows[client]?.filter (·.isLive now) = some w :=
    Std.HashMap.getElem?_filter'.symm.trans h
  exact (Option.filter_eq_some_iff.mp hfilter).2

/-- The table after a request: the entry of its client, and pruned entries. -/
theorem windows_charge_cases {other : String} {w : Window}
    (h : (l.charge client now).2.windows[other]? = some w) :
    (other = client ∧ w = (Window.current now l.windows[client]?).counted l.budget) ∨
      (other ≠ client ∧ (l.prune now).windows[other]? = some w) := by
  by_cases hother : other = client
  · subst hother
    rw [windows_charge_self] at h
    exact .inl ⟨rfl, (Option.some.inj h).symm⟩
  · rw [windows_charge_other _ _ _ hother] at h
    exact .inr ⟨hother, h⟩

/-- **After a request few clients are tracked or all windows are live**, whatever the table
was before. -/
theorem few_or_live_charge (l : Limiter) (client : String) (now : Nat) :
    (l.charge client now).2.tracked ≤ pruneThreshold ∨
      ∀ (other : String) (w : Window), (l.charge client now).2.windows[other]? = some w →
        w.isLive now = true := by
  by_cases hfew : l.tracked < pruneThreshold
  · refine .inl ?_
    have hinsert := Std.HashMap.size_insert_le (m := l.windows) (k := client)
      (v := (Window.current now l.windows[client]?).counted l.budget)
    rw [charge_eq, prune_of_lt hfew]
    exact Nat.le_trans hinsert hfew
  · refine .inr fun other w hw => ?_
    rcases windows_charge_cases hw with ⟨-, rfl⟩ | ⟨-, hpruned⟩
    · rw [Window.isLive_counted]
      exact Window.isLive_current now _
    · exact isLive_of_prune (Nat.le_of_not_lt hfew) hpruned

/-! ## What the windows say -/

/-- Every window started with a request of its client, and its count is within the budget. -/
structure Sound (requests : List (String × Nat)) (l : Limiter) : Prop where
  requests_le : ∀ (client : String) (w : Window), l.windows[client]? = some w →
    w.requests ≤ l.budget
  opened : ∀ (client : String) (w : Window), l.windows[client]? = some w →
    (client, w.started) ∈ requests

namespace Sound

theorem new (budget : Nat) : Sound [] (Limiter.new budget) := by
  have hnone : ∀ client : String, (Limiter.new budget).windows[client]? = none :=
    fun _ => Std.HashMap.getElem?_empty
  constructor <;>
  · intro client w hw
    rw [hnone] at hw
    cases hw

/-- The window a request falls into was opened by this request or an earlier one. -/
theorem current (h : Sound requests l) (client : String) (now : Nat) :
    (Window.current now l.windows[client]?).requests ≤ l.budget ∧
      (client, (Window.current now l.windows[client]?).started) ∈ requests ++ [(client, now)] := by
  rcases Window.current_cases now l.windows[client]? with ⟨w, hw, -, hcur⟩ | ⟨-, hcur⟩
  · rw [hcur]
    exact ⟨h.requests_le client w hw, List.mem_append_left _ (h.opened client w hw)⟩
  · rw [hcur]
    exact ⟨Nat.zero_le _, List.mem_append_right _ List.mem_cons_self⟩

theorem charge (h : Sound requests l) (client : String) (now : Nat) :
    Sound (requests ++ [(client, now)]) (l.charge client now).2 := by
  obtain ⟨hcount, hopened⟩ := h.current client now
  constructor
  · intro other w hw
    rw [budget_charge]
    rcases windows_charge_cases hw with ⟨-, rfl⟩ | ⟨-, hpruned⟩
    · exact Window.requests_counted_le hcount
    · exact h.requests_le other w (windows_of_prune hpruned)
  · intro other w hw
    rcases windows_charge_cases hw with ⟨rfl, rfl⟩ | ⟨-, hpruned⟩
    · rwa [Window.started_counted]
    · exact List.mem_append_left _ (h.opened other w (windows_of_prune hpruned))

theorem run {later : List (String × Nat)} (h : Sound requests l) :
    Sound (requests ++ later) (l.run later).2 := by
  induction later generalizing l requests with
  | nil => rwa [List.append_nil]
  | cons request later ih =>
    have hrest := ih (h.charge request.1 request.2)
    rwa [List.append_assoc] at hrest

end Sound

/-! ## The size of the table -/

/-- The clients with a request less than a window's length before a time, each once. -/
def recent (now : Nat) (requests : List (String × Nat)) : List String :=
  ((requests.filter fun request => Window.within request.2 now).map Prod.fst).dedup

theorem mem_recent : client ∈ recent now requests ↔
    ∃ time, (client, time) ∈ requests ∧ Window.within time now = true := by
  simp [recent]

/-- Clients who are all on a list of names are no more than the list has. -/
theorem tracked_le_length {names : List String}
    (h : ∀ (client : String) (w : Window), l.windows[client]? = some w → client ∈ names) :
    l.tracked ≤ names.length := by
  have hsubset : l.windows.keys ⊆ names := by
    intro client hclient
    have hmem := Std.HashMap.mem_keys.mp hclient
    rw [Std.HashMap.mem_iff_isSome_getElem?, Option.isSome_iff_exists] at hmem
    obtain ⟨w, hw⟩ := hmem
    exact h client w hw
  have hlength := (List.subperm_of_subset Std.HashMap.nodup_keys hsubset).length_le
  rwa [Std.HashMap.length_keys] at hlength

/-- How a request of a client at a time, the last of a run, finds the table and leaves it. -/
structure TableLaw (budget : Nat) (requests : List (String × Nat)) (client : String) (now : Nat)
    (before after : Limiter) : Prop where
  /-- No window has let more requests pass than the budget. -/
  requests_le : ∀ (other : String) (w : Window), after.windows[other]? = some w →
    w.requests ≤ budget
  /-- No window starts in the future. -/
  started_le : ∀ (other : String) (w : Window), after.windows[other]? = some w → w.started ≤ now
  /-- If the request passes, the count of its window goes up by one without leaving a word of
  32 bits. -/
  count_fits : (before.charge client now).1 = true →
    (UInt32.ofNat ((before.prune now).windowFor client now).requests + 1).toNat =
      ((before.prune now).windowFor client now).requests + 1
  /-- The client is tracked, with a live window. -/
  self_live : ∃ w : Window, after.windows[client]? = some w ∧ w.isLive now = true
  /-- There are few clients, or all windows are live. -/
  few_or_live : after.tracked ≤ pruneThreshold ∨
    ∀ (other : String) (w : Window), after.windows[other]? = some w → w.isLive now = true
  /-- There are few clients, or no more than made a request within the last minute. -/
  tracked_le : after.tracked ≤ max pruneThreshold (recent now requests).length

/-- A count below a word's greatest goes up by one in the word as well. -/
theorem toNat_ofNat_add_one {n : Nat} (h : n + 1 < UInt32.size) :
    (UInt32.ofNat n + 1).toNat = n + 1 := by
  rw [UInt32.toNat_add, UInt32.toNat_ofNat]
  change n + 1 < 4294967296 at h
  change (n % 4294967296 + 1) % 4294967296 = n + 1
  omega

/-- The table law for a run that ends with the request. -/
theorem tableLaw_append {budget : Nat} (hbudget : budget < UInt32.size)
    (sorted : (requests ++ [(client, now)]).Pairwise (·.2 ≤ ·.2)) :
    TableLaw budget (requests ++ [(client, now)]) client now ((new budget).run requests).2
      ((new budget).run (requests ++ [(client, now)])).2 := by
  have hrun : ((new budget).run (requests ++ [(client, now)])).2 =
      (((new budget).run requests).2.charge client now).2 := by
    rw [run_append, run_cons, run_nil]
  have hsound : Sound (requests ++ [(client, now)])
      (((new budget).run requests).2.charge client now).2 :=
    (Sound.new budget).run.charge client now
  have hlive := few_or_live_charge ((new budget).run requests).2 client now
  have hlast : ∀ request ∈ requests ++ [(client, now)], request.2 ≤ now := by
    intro request hmem
    rcases List.mem_append.mp hmem with hmem | hmem
    · exact (List.pairwise_append.mp sorted).2.2 request hmem _ List.mem_cons_self
    · exact Nat.le_of_eq (congrArg Prod.snd (List.mem_singleton.mp hmem))
  rw [hrun]
  constructor
  · intro other w hw
    have hle := hsound.requests_le other w hw
    rwa [budget_charge, budget_run] at hle
  · intro other w hw
    exact hlast _ (hsound.opened other w hw)
  · intro hpasses
    rw [passes_charge, decide_eq_true_iff, budget_run] at hpasses
    rw [windowFor_eq, current_prune]
    exact toNat_ofNat_add_one (Nat.lt_of_le_of_lt hpasses hbudget)
  · refine ⟨_, windows_charge_self _ client now, ?_⟩
    rw [Window.isLive_counted]
    exact Window.isLive_current now _
  · exact hlive
  · rcases hlive with hfew | hlive
    · exact Nat.le_trans hfew (Nat.le_max_left _ _)
    · -- a live window was opened within the last minute, by a request of its client
      refine Nat.le_trans (tracked_le_length fun other w hw => ?_) (Nat.le_max_right _ _)
      have hopened := hsound.opened other w hw
      have hstarted : w.started ≤ now := hlast _ hopened
      have hended := Window.isLive_iff.mp (hlive other w hw)
      refine mem_recent.mpr ⟨w.started, hopened, Window.within_iff.mpr ⟨hstarted, ?_⟩⟩
      omega

/-- **The table law** holds for every request of every run at never decreasing times. -/
theorem tableLaw (budget : Nat) (hbudget : budget < UInt32.size)
    (requests : List (String × Nat)) (sorted : requests.Pairwise (·.2 ≤ ·.2)) (n : Nat)
    (client : String) (now : Nat) (hrequest : requests[n]? = some (client, now)) :
    TableLaw budget (requests.take (n + 1)) client now
      ((new budget).run (requests.take n)).2 ((new budget).run (requests.take (n + 1))).2 := by
  have htake : requests.take (n + 1) = requests.take n ++ [(client, now)] := by
    rw [List.take_add_one, hrequest]
    rfl
  have hsorted := sorted.sublist (List.take_sublist (n + 1) requests)
  rw [htake] at hsorted ⊢
  exact tableLaw_append hbudget hsorted

/-- With the greatest budget a word holds: the client comes back at the very moment its
window ends. -/
theorem tableLaw_of_greatest_budget :
    UInt32.size - 1 < UInt32.size ∧
      [("a", 0), ("b", 1), ("a", 60000)].Pairwise (·.2 ≤ ·.2) ∧
      [("a", 0), ("b", 1), ("a", 60000)][2]? = some ("a", 60000) ∧
      TableLaw (UInt32.size - 1) [("a", 0), ("b", 1), ("a", 60000)] "a" 60000
        ((new (UInt32.size - 1)).run [("a", 0), ("b", 1)]).2
        ((new (UInt32.size - 1)).run [("a", 0), ("b", 1), ("a", 60000)]).2 := by
  have hbudget : UInt32.size - 1 < UInt32.size := by decide
  have sorted : [("a", 0), ("b", 1), ("a", 60000)].Pairwise (·.2 ≤ ·.2) := by decide
  have hrequest : [("a", 0), ("b", 1), ("a", 60000)][2]? = some ("a", 60000) := by decide
  exact ⟨hbudget, sorted, hrequest, tableLaw _ hbudget _ sorted 2 "a" 60000 hrequest⟩

end Limiter

end PairQuote
