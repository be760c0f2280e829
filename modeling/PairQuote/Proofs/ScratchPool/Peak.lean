import Mathlib.Data.List.Induction
import PairQuote.Proofs.ScratchPool.Accounts

/-! # The greatest demand

A pool makes a new integer only when its free list is empty.  Every integer it ever made is
then out, or was lost to a full list.  So if nothing was lost, a miss takes the number of
integers that are out to a new **peak**; and if the list has room for as many integers as
are out at the peak, nothing is ever lost (`misses_le_of_outstanding_le`).  The other way
round, what is out was made, whatever was lost (`outstanding_le_misses`).

A workspace reaches its peak in the middle of a step: while an old integer is still out that
a new one replaces, or while a swap is priced.  `Workspace.peak` reads it off the steps, and
it is the greatest number that is out at any moment (`Workspace.out_le_peak`,
`Workspace.exists_out_eq_peak`).
-/
namespace PairQuote.ScratchPool

variable {capacity : Nat} {moves first : List Move}

/-! ## New integers -/

theorem Covered.of_isPrefix {out : Nat} (h : Covered out moves) (hpart : first <+: moves) :
    Covered out first :=
  fun part hfirst => h part (hfirst.trans hpart)

/-- An integer that was made stays made. -/
theorem misses_le_on (p : ScratchPool) (move : Move) : p.misses ≤ (move.on p).misses := by
  cases move with
  | drop | handBack => exact Nat.le_refl _
  | borrow =>
    rcases on_borrow_cases p with ⟨rest, value, -, -, hon⟩ | ⟨-, -, hon⟩
    · exact Nat.le_of_eq (congrArg misses hon).symm
    · rw [hon]
      exact Nat.le_succ _

theorem misses_le_after (p : ScratchPool) (moves : List Move) :
    p.misses ≤ (p.after moves).misses := by
  induction moves generalizing p with
  | nil => exact Nat.le_refl _
  | cons move moves ih => exact Nat.le_trans (misses_le_on p move) (ih (move.on p))

/-- What is out or waits on the list was made. -/
theorem outstanding_add_available_le (h : Covered 0 moves) (hown : .handBack ∉ moves) :
    outstanding moves + ((ScratchPool.new capacity).after moves).available ≤
      ((ScratchPool.new capacity).after moves).misses := by
  have hbooks := h.accounts capacity
  have hmade := hbooks.out
  have hkept := hbooks.available_add_hits_le
  rw [List.count_eq_zero.mpr hown] at hmade
  omega

/-- **Whatever is out at some moment was made.** -/
theorem outstanding_le_misses (h : Covered 0 moves) (hown : .handBack ∉ moves)
    (hpart : first <+: moves) :
    outstanding first ≤ ((ScratchPool.new capacity).after moves).misses := by
  have hfirst : outstanding first + ((ScratchPool.new capacity).after first).available ≤
      ((ScratchPool.new capacity).after first).misses :=
    outstanding_add_available_le (h.of_isPrefix hpart) fun hmem => hown (hpart.subset hmem)
  obtain ⟨rest, rfl⟩ := hpart
  have hlater := misses_le_after ((ScratchPool.new capacity).after first) rest
  rw [after_append]
  omega

/-- When an integer comes back, what waits on the list is not all that was made. -/
theorem available_lt_of_drop {before : List Move} (h : Covered 0 (before ++ [.drop]))
    (hown : .handBack ∉ before) : ((ScratchPool.new capacity).after before).available <
      ((ScratchPool.new capacity).after before).misses := by
  have hout := h _ List.prefix_rfl
  rw [List.count_append, List.count_append] at hout
  change before.count .drop + 1 ≤ 0 + (before.count .borrow + 0) at hout
  have hbefore : outstanding before + ((ScratchPool.new capacity).after before).available ≤
      ((ScratchPool.new capacity).after before).misses :=
    outstanding_add_available_le (h.of_isPrefix (List.prefix_append _ _)) hown
  rw [outstanding] at hbefore
  omega

/-- Nothing is lost while the list has room for everything that was made. -/
theorem outstanding_add_available_eq (h : Covered 0 moves) (hown : .handBack ∉ moves)
    (hroom : ((ScratchPool.new capacity).after moves).misses ≤ capacity) :
    outstanding moves + ((ScratchPool.new capacity).after moves).available =
      ((ScratchPool.new capacity).after moves).misses := by
  have hbooks := h.accounts capacity
  have hkept : ((ScratchPool.new capacity).after moves).available +
      ((ScratchPool.new capacity).after moves).hits =
        ((ScratchPool.new capacity).after moves).releases := by
    refine hbooks.eq_iff.mpr fun before move since hsplit hreturn => ?_
    have hmove : move = .drop := by
      cases move with
      | borrow => cases hreturn
      | drop => rfl
      | handBack => exact absurd (by rw [hsplit]; simp) hown
    subst hmove
    have hpart : before ++ [.drop] <+: moves := ⟨since, by rw [hsplit]; simp⟩
    have hlist : ((ScratchPool.new capacity).after before).available <
        ((ScratchPool.new capacity).after before).misses :=
      available_lt_of_drop (h.of_isPrefix hpart)
        fun hmem => hown (by rw [hsplit]; exact List.mem_append_left _ hmem)
    have hlater := misses_le_after ((ScratchPool.new capacity).after before) (.drop :: since)
    rw [← after_append, ← hsplit] at hlater
    omega
  have hmade := hbooks.out
  rw [List.count_eq_zero.mpr hown] at hmade
  omega

/-- **A pool with room for the greatest number that is out makes no more than that.** -/
theorem misses_le_of_outstanding_le {bound : Nat} (h : Covered 0 moves)
    (hown : .handBack ∉ moves) (hbound : ∀ first, first <+: moves → outstanding first ≤ bound)
    (hroom : bound ≤ capacity) :
    ((ScratchPool.new capacity).after moves).misses ≤ bound := by
  induction moves using List.reverseRecOn with
  | nil => exact Nat.zero_le bound
  | append_singleton moves move ih =>
    have hpart : moves <+: moves ++ [move] := List.prefix_append moves [move]
    have hcovered := h.of_isPrefix hpart
    have hownBefore : Move.handBack ∉ moves := fun hmem => hown (hpart.subset hmem)
    have hbefore := ih hcovered hownBefore fun first hfirst => hbound first (hfirst.trans hpart)
    rw [after_append]
    cases move with
    | handBack => exact absurd (by simp) hown
    | drop => exact hbefore
    | borrow =>
      change (Move.borrow.on _).misses ≤ bound
      rcases on_borrow_cases ((ScratchPool.new capacity).after moves) with
        ⟨rest, value, -, -, hon⟩ | ⟨hfree, -, hon⟩
      · rw [hon]
        exact hbefore
      · -- With nothing on the list, all that was made is out.
        have hkept := outstanding_add_available_eq hcovered hownBefore
          (Nat.le_trans hbefore hroom)
        have hpeak := hbound _ List.prefix_rfl
        have hdropped := hcovered moves List.prefix_rfl
        rw [outstanding, available, hfree, Array.size_empty] at hkept
        rw [outstanding, List.count_append, List.count_append] at hpeak
        change moves.count .borrow + 1 - (moves.count .drop + 0) ≤ bound at hpeak
        rw [hon]
        change _ + 1 ≤ bound
        omega

/-! ## The peak of a workspace -/

/-- How many integers a step takes on top of those that are held. -/
def Step.demand {ι : Type} : Step ι → Nat
  | .acquire _ => 1
  | .compute _ _ _ feeRemoved =>
    match Fee.ofRemoved feeRemoved with
    | .ok fee => ScratchPool.demand fee
    | .error _ => 0
  | .set .. | .add .. | .multiply .. | .get _ | .letGo _ | .release .. => 0

namespace Workspace
variable {ι : Type} [DecidableEq ι] {w : Workspace ι}

/-- The greatest number of integers that are out at the same time during steps. -/
def peak (w : Workspace ι) : List (Step ι) → Nat
  | [] => w.held.length
  | step :: steps => max (w.held.length + step.demand) ((w.apply step).2.peak steps)

/-- A step takes all its integers before it drops any. -/
theorem moves_eq_append (w : Workspace ι) (step : Step ι) :
    ∃ rest, w.moves step = List.replicate step.demand .borrow ++ rest ∧
      rest.count .borrow = 0 := by
  cases step with
  | acquire id =>
    rw [moves]
    by_cases hholds : w.holds id = true
    · exact ⟨[.drop], by rw [if_pos hholds]; rfl, rfl⟩
    · exact ⟨[], by rw [if_neg hholds]; rfl, rfl⟩
  | letGo id =>
    rw [moves]
    by_cases hholds : w.holds id = true
    · exact ⟨[.drop], by rw [if_pos hholds]; rfl, rfl⟩
    · exact ⟨[], by rw [if_neg hholds]; rfl, rfl⟩
  | release value count => exact ⟨_, rfl, by simp [List.count_replicate]⟩
  | compute amountIn reserveIn reserveOut feeRemoved =>
    rw [moves, Step.demand]
    cases Fee.ofRemoved feeRemoved with
    | error e => exact ⟨[], rfl, rfl⟩
    | ok fee => exact ⟨_, rfl, by simp [List.count_replicate]⟩
  | set | add | multiply | get => exact ⟨[], rfl, rfl⟩

theorem count_borrow_moves (w : Workspace ι) (step : Step ι) :
    (w.moves step).count .borrow = step.demand := by
  obtain ⟨rest, hmoves, hrest⟩ := w.moves_eq_append step
  rw [hmoves, List.count_append, hrest, List.count_replicate_self]
  rfl

/-- At no moment more is out than at the peak. -/
theorem out_le_peak (h : w.names.Nodup) (steps : List (Step ι)) {first : List Move}
    (hpart : first <+: w.movesOf steps) :
    w.held.length + first.count .borrow ≤ w.peak steps + first.count .drop := by
  induction steps generalizing w first with
  | nil =>
    rw [List.prefix_nil.mp hpart]
    exact Nat.le_refl _
  | cons step steps ih =>
    rw [peak]
    -- The moment falls into the first step or comes after it.
    rcases List.prefix_or_prefix_of_prefix hpart (List.prefix_append _ _) with hin | ⟨later, rfl⟩
    · have hborrowed := hin.sublist.count_le (a := Move.borrow)
      rw [count_borrow_moves] at hborrowed
      omega
    · have hlater := ih (nodup_names_apply h step) ((List.prefix_append_right_inj _).mp hpart)
      have hstep := length_names_apply h step
      rw [names, names, List.length_map, List.length_map] at hstep
      rw [List.count_append, List.count_append]
      omega

/-- At some moment as much is out as at the peak. -/
theorem exists_out_eq_peak (h : w.names.Nodup) (steps : List (Step ι)) :
    ∃ first, first <+: w.movesOf steps ∧
      w.held.length + first.count .borrow = w.peak steps + first.count .drop := by
  induction steps generalizing w with
  | nil => exact ⟨[], List.prefix_rfl, rfl⟩
  | cons step steps ih =>
    obtain ⟨first, hpart, hfirst⟩ := ih (nodup_names_apply h step)
    rw [peak]
    by_cases hnow : (w.apply step).2.peak steps ≤ w.held.length + step.demand
    · -- The peak is reached when the step has taken all it needs.
      obtain ⟨rest, hmoves, -⟩ := w.moves_eq_append step
      refine ⟨List.replicate step.demand .borrow, ?_, ?_⟩
      · rw [movesOf, hmoves, List.append_assoc]
        exact List.prefix_append _ _
      · rw [Nat.max_eq_left hnow]
        simp [List.count_replicate]
    · refine ⟨w.moves step ++ first, (List.prefix_append_right_inj _).mpr hpart, ?_⟩
      have hstep := length_names_apply h step
      rw [names, names, List.length_map, List.length_map] at hstep
      rw [List.count_append, List.count_append]
      omega

theorem handBack_notMem_movesOf {steps : List (Step ι)}
    (hown : ∀ value count, .release value count ∉ steps) : .handBack ∉ w.movesOf steps := by
  induction steps generalizing w with
  | nil => exact List.not_mem_nil
  | cons step steps ih =>
    have hrest := ih (w := (w.apply step).2) fun value count hmem =>
      hown value count (List.mem_cons_of_mem _ hmem)
    rw [movesOf, List.mem_append, not_or]
    refine ⟨?_, hrest⟩
    cases step with
    | acquire id | letGo id =>
      rw [moves]
      split <;> simp
    | release value count => exact absurd List.mem_cons_self (hown value count)
    | compute amountIn reserveIn reserveOut feeRemoved =>
      rw [moves]
      cases Fee.ofRemoved feeRemoved with
      | error e => exact List.not_mem_nil
      | ok fee => simp [computing]
    | set | add | multiply | get => exact List.not_mem_nil

/-- **New integers are made for the greatest demand only.**  Where nothing is handed back
that was made elsewhere, a pool that was never used makes at least as many integers as are
out at the peak, and no more if its list has room for that many.  The peak is the greatest
number that is out at any moment, also in the middle of a step. -/
theorem misses_of_peak (capacity : Nat) (steps : List (Step ι))
    (hown : ∀ value count, .release value count ∉ steps) :
    (∀ first, first <+: (new capacity).movesOf steps →
      outstanding first ≤ (new capacity).peak steps) ∧
    (∃ first, first <+: (new capacity).movesOf steps ∧
      outstanding first = (new capacity).peak steps) ∧
    (new capacity).peak steps ≤ ((new capacity).run steps).pool.misses ∧
    ((new capacity).peak steps ≤ capacity →
      ((new capacity).run steps).pool.misses = (new capacity).peak steps) := by
  have hnodup : (new capacity : Workspace ι).names.Nodup := nodup_names_new capacity
  have hcovered : Covered 0 ((new capacity).movesOf steps) := covered_movesOf hnodup steps
  have hmoves : Move.handBack ∉ (new capacity).movesOf steps := handBack_notMem_movesOf hown
  have hpool : ((new capacity).run steps).pool =
      (ScratchPool.new capacity).after ((new capacity).movesOf steps) := run_pool _ steps
  have hbound : ∀ first, first <+: (new capacity).movesOf steps →
      outstanding first ≤ (new capacity).peak steps := by
    intro first hpart
    have hout := out_le_peak hnodup steps hpart
    change 0 + _ ≤ _ at hout
    rw [outstanding]
    omega
  have hreached : ∃ first, first <+: (new capacity).movesOf steps ∧
      outstanding first = (new capacity).peak steps := by
    obtain ⟨first, hpart, hfirst⟩ := exists_out_eq_peak hnodup steps
    change 0 + _ = _ at hfirst
    refine ⟨first, hpart, ?_⟩
    rw [outstanding]
    omega
  have hmade : (new capacity).peak steps ≤ ((new capacity).run steps).pool.misses := by
    obtain ⟨first, hpart, hfirst⟩ := hreached
    rw [← hfirst, hpool]
    exact outstanding_le_misses hcovered hmoves hpart
  refine ⟨hbound, hreached, hmade, fun hroom => Nat.le_antisymm ?_ hmade⟩
  rw [hpool]
  exact misses_le_of_outstanding_le hcovered hmoves hbound hroom

/-- Two names, one of them borrowed anew, and a swap with a fee that is not preset. -/
def busySteps : List (Step Nat) :=
  [.acquire 0, .acquire 1, .acquire 0, .letGo 1, .compute 1000 5000 5000 25, .letGo 0,
    .compute 1000 5000 5000 3, .acquire 2]

/-- The peak is the swap at which one integer is held besides. -/
theorem misses_of_peak_of_busy_steps :
    (∀ value count, Step.release value count ∉ busySteps) ∧
      (new 5 : Workspace Nat).peak busySteps = 5 ∧
      [.borrow, .borrow, .borrow, .drop] <+: (new 5).movesOf busySteps ∧
      outstanding [.borrow, .borrow, .borrow, .drop] ≤ (new 5 : Workspace Nat).peak busySteps ∧
      ((new 5).run busySteps).pool.misses = 5 ∧
      5 ≤ ((new 2).run busySteps).pool.misses := by
  have hown : ∀ value count, Step.release value count ∉ busySteps := by
    intro value count
    simp [busySteps]
  have hpeak : (new 5 : Workspace Nat).peak busySteps = 5 := by decide
  have hpart : [.borrow, .borrow, .borrow, .drop] <+: (new 5).movesOf busySteps := ⟨_, rfl⟩
  obtain ⟨hbound, -, -, heq⟩ := misses_of_peak 5 busySteps hown
  obtain ⟨-, -, hmade, -⟩ := misses_of_peak 2 busySteps hown
  exact ⟨hown, hpeak, hpart, hbound _ hpart, (heq (Nat.le_of_eq hpeak)).trans hpeak, hmade⟩

end Workspace

end PairQuote.ScratchPool
