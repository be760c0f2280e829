import PairQuote.Proofs.ScratchPool.Steps

/-! # The books of the pool

The counters of a pool say what was done with it.  Each move has one line in the books
(`acquisitions_on`, `releases_on`, `balance_on`), and a run of moves adds the lines up.
What a returned integer adds to the list is either borrowed again, still there, or was
dropped because the list was full; `overflows` counts the last, so that what is on the list
together with the hits falls short of the releases by just that (`balance_after`).

A workspace never drops more than it has borrowed, also in the middle of a step
(`Workspace.drops_le_of_isPrefix`), and what is out at the end of a step is what is held.
-/
namespace PairQuote.ScratchPool

variable {p : ScratchPool} {moves : List Move}

/-! ## One move -/

/-- A borrowing is counted as a hit or as a miss. -/
theorem acquisitions_on (p : ScratchPool) (move : Move) :
    (move.on p).acquisitions = p.acquisitions + if move = .borrow then 1 else 0 := by
  cases move with
  | drop | handBack => rfl
  | borrow =>
    rcases on_borrow_cases p with ⟨rest, value, -, -, h⟩ | ⟨-, -, h⟩
    · rw [h]
      exact Nat.add_right_comm p.hits 1 p.misses
    · rw [h]
      rfl

/-- A return is counted, whether or not the integer is kept. -/
theorem releases_on (p : ScratchPool) (move : Move) :
    (move.on p).releases = p.releases + if move.isReturn then 1 else 0 := by
  cases move with
  | drop | handBack => rfl
  | borrow => rcases on_borrow_cases p with ⟨rest, value, -, -, h⟩ | ⟨-, -, h⟩ <;> rw [h] <;> rfl

/-- A return that finds the list full. -/
def Overflow (p : ScratchPool) (move : Move) : Prop :=
  move.isReturn = true ∧ p.capacity ≤ p.available

instance (p : ScratchPool) (move : Move) : Decidable (p.Overflow move) :=
  inferInstanceAs (Decidable (_ ∧ _))

/-- What comes to the list is kept or overflows; what leaves it is a hit. -/
theorem balance_on (p : ScratchPool) (move : Move) :
    (move.on p).available + (move.on p).hits + (if p.Overflow move then 1 else 0) + p.releases =
      p.available + p.hits + (move.on p).releases := by
  cases hmove : move.isReturn with
  | false =>
    have hkept : ¬p.Overflow move := by simp [Overflow, hmove]
    cases move with
    | drop | handBack => cases hmove
    | borrow =>
      rw [if_neg hkept]
      rcases on_borrow_cases p with ⟨rest, value, hfree, -, hon⟩ | ⟨-, -, hon⟩
      · have hsize : p.available = rest.size + 1 := by rw [available, hfree, Array.size_push]
        rw [hon, hsize]
        change rest.size + (p.hits + 1) + 0 + p.releases = rest.size + 1 + p.hits + p.releases
        omega
      · rw [hon]
        rfl
  | true =>
    rcases on_return_cases p hmove with ⟨hroom, hon⟩ | ⟨hfull, hon⟩
    · have hkept : ¬p.Overflow move := fun h => Nat.not_lt_of_le h.2 hroom
      rw [if_neg hkept, hon, available, Array.size_push]
      change p.available + 1 + p.hits + 0 + p.releases = p.available + p.hits + (p.releases + 1)
      omega
    · rw [if_pos ⟨hmove, hfull⟩, hon]
      change p.available + p.hits + 1 + p.releases = p.available + p.hits + (p.releases + 1)
      omega

/-! ## A run of moves -/

theorem acquisitions_after (p : ScratchPool) (moves : List Move) :
    (p.after moves).acquisitions = p.acquisitions + moves.count .borrow := by
  induction moves generalizing p with
  | nil => rfl
  | cons move moves ih =>
    rw [after_cons, ih, acquisitions_on, List.count_cons]
    simp only [beq_iff_eq]
    omega

theorem releases_after (p : ScratchPool) (moves : List Move) :
    (p.after moves).releases = p.releases + moves.countP Move.isReturn := by
  induction moves generalizing p with
  | nil => rfl
  | cons move moves ih =>
    rw [after_cons, ih, releases_on, List.countP_cons]
    omega

/-- What comes back was borrowed, or was made elsewhere. -/
theorem countP_isReturn (moves : List Move) :
    moves.countP Move.isReturn = moves.count .drop + moves.count .handBack := by
  induction moves with
  | nil => rfl
  | cons move moves ih =>
    rw [List.countP_cons, List.count_cons, List.count_cons, ih]
    cases move <;> simp [Move.isReturn] <;> omega

/-- How many returns among moves find the list full. -/
def overflows (p : ScratchPool) : List Move → Nat
  | [] => 0
  | move :: moves => (if p.Overflow move then 1 else 0) + overflows (move.on p) moves

/-- **The list and the hits fall short of the releases by what overflowed.** -/
theorem balance_after (p : ScratchPool) (moves : List Move) :
    (p.after moves).available + (p.after moves).hits + p.overflows moves + p.releases =
      p.available + p.hits + (p.after moves).releases := by
  induction moves generalizing p with
  | nil => rfl
  | cons move moves ih =>
    have hmove := balance_on p move
    have hmoves := ih (move.on p)
    rw [after_cons, overflows]
    omega

theorem overflows_eq_zero_iff (p : ScratchPool) (moves : List Move) :
    p.overflows moves = 0 ↔
      ∀ before move since, moves = before ++ move :: since → ¬(p.after before).Overflow move := by
  induction moves generalizing p with
  | nil => simp [overflows]
  | cons first moves ih =>
    rw [overflows, Nat.add_eq_zero_iff, ih]
    have hnone : (if p.Overflow first then 1 else 0) = 0 ↔ ¬p.Overflow first := by
      split <;> simp [*]
    rw [hnone]
    constructor
    · rintro ⟨hfirst, hmoves⟩ before move since hsplit
      -- the split falls before the first move or later
      cases before with
      | nil =>
        obtain ⟨rfl, -⟩ := List.cons.inj hsplit
        exact hfirst
      | cons _ before =>
        obtain ⟨rfl, hrest⟩ := List.cons.inj hsplit
        exact hmoves before move since hrest
    · intro h
      refine ⟨h [] first moves rfl, fun before move since hsplit => ?_⟩
      exact h (first :: before) move since (congrArg (first :: ·) hsplit)

/-! ## The integers that are out -/

/-- How many integers are out after moves, if none was before. -/
def outstanding (moves : List Move) : Nat := moves.count .borrow - moves.count .drop

/-- Nothing is ever dropped that is not out, if so many integers are out at first. -/
def Covered (out : Nat) (moves : List Move) : Prop :=
  ∀ first, first <+: moves → first.count .drop ≤ out + first.count .borrow

theorem covered_of_count_le {out : Nat} (h : moves.count .drop ≤ out) : Covered out moves :=
  fun _ hpart =>
    Nat.le_trans (hpart.sublist.count_le _) (Nat.le_trans h (Nat.le_add_right _ _))

theorem Covered.append {out next : Nat} {first second : List Move} (hfirst : Covered out first)
    (hnext : next + first.count .drop = out + first.count .borrow) (hsecond : Covered next second) :
    Covered out (first ++ second) := by
  intro moves hpart
  rcases List.prefix_or_prefix_of_prefix hpart (List.prefix_append first second) with
    h | ⟨rest, rfl⟩
  · exact hfirst moves h
  · have hrest := hsecond rest ((List.prefix_append_right_inj first).mp hpart)
    rw [List.count_append, List.count_append]
    omega

namespace Workspace
variable {ι : Type} [DecidableEq ι] {w : Workspace ι}

theorem covered_moves (w : Workspace ι) (step : Step ι) :
    Covered w.names.length (w.moves step) := by
  cases step with
  | acquire id =>
    -- The borrowed integer is out when the old one is dropped.
    have hsplit : w.moves (.acquire id) = [.borrow] ++ if w.holds id then [.drop] else [] := by
      rw [moves]
      split <;> rfl
    rw [hsplit]
    refine (covered_of_count_le (Nat.zero_le _)).append rfl (covered_of_count_le ?_)
    split <;> simp
  | letGo id =>
    rw [moves]
    by_cases hholds : w.holds id = true
    · rw [if_pos hholds]
      exact covered_of_count_le (List.length_pos_of_mem (holds_iff.mp hholds))
    · rw [if_neg hholds]
      exact covered_of_count_le (Nat.zero_le _)
  | release value count =>
    refine covered_of_count_le ?_
    simp [moves, List.count_replicate]
  | compute amountIn reserveIn reserveOut feeRemoved =>
    rw [moves]
    cases Fee.ofRemoved feeRemoved with
    | error e => exact covered_of_count_le (Nat.zero_le _)
    | ok fee =>
      have hborrowed : w.names.length + demand fee +
          (List.replicate (demand fee) Move.borrow).count .drop =
            w.names.length + (List.replicate (demand fee) Move.borrow).count .borrow := by
        simp [List.count_replicate]
      refine (covered_of_count_le ?_).append hborrowed (covered_of_count_le ?_)
      · simp [List.count_replicate]
      · simp
  | set | add | multiply | get => exact covered_of_count_le (Nat.zero_le _)

theorem covered_movesOf (h : w.names.Nodup) (steps : List (Step ι)) :
    Covered w.names.length (w.movesOf steps) := by
  induction steps generalizing w with
  | nil => exact covered_of_count_le (Nat.zero_le _)
  | cons step steps ih =>
    exact (covered_moves w step).append (length_names_apply h step) (ih (nodup_names_apply h step))

theorem length_names_run (h : w.names.Nodup) (steps : List (Step ι)) :
    (w.run steps).names.length + (w.movesOf steps).count .drop =
      w.names.length + (w.movesOf steps).count .borrow := by
  induction steps generalizing w with
  | nil => rfl
  | cons step steps ih =>
    have hstep := length_names_apply h step
    have hsteps := ih (nodup_names_apply h step)
    rw [run_cons, movesOf, List.count_append, List.count_append]
    omega

end Workspace

/-! ## The books -/

/-- What the numbers of a pool that was new say of the moves on it, when so many integers
are out. -/
structure Accounts (capacity out : Nat) (moves : List Move) (p : ScratchPool) : Prop where
  zero : ∀ value ∈ p.free, value = 0
  available_le : p.available ≤ capacity
  acquisitions : p.hits + p.misses = moves.count .borrow
  releases : p.releases = moves.count .drop + moves.count .handBack
  dropped_le : moves.count .drop ≤ moves.count .borrow
  out : out + p.releases = p.hits + p.misses + moves.count .handBack
  available_add_hits_le : p.available + p.hits ≤ p.releases
  /-- Nothing is missing exactly if no return found the list full. -/
  eq_iff : p.available + p.hits = p.releases ↔
    ∀ before move since, moves = before ++ move :: since → move.isReturn = true →
      ((ScratchPool.new capacity).after before).available < capacity
  /-- The counters fit their words as long as the number of moves does. -/
  fits : moves.length < UInt64.size → p.hits + p.misses < UInt64.size ∧ p.releases < UInt64.size

theorem not_overflow_iff {capacity : Nat} {before : List Move} {move : Move} :
    ¬((ScratchPool.new capacity).after before).Overflow move ↔
      (move.isReturn = true → ((ScratchPool.new capacity).after before).available < capacity) := by
  rw [Overflow, capacity_after, not_and, Nat.not_le]
  rfl

/-- **The books are right after any moves that drop only what is out.** -/
theorem Covered.accounts (capacity : Nat) (h : Covered 0 moves) :
    Accounts capacity (outstanding moves) moves ((ScratchPool.new capacity).after moves) := by
  have hacquisitions : ((ScratchPool.new capacity).after moves).hits +
      ((ScratchPool.new capacity).after moves).misses = moves.count .borrow :=
    (acquisitions_after (ScratchPool.new capacity) moves).trans (Nat.zero_add _)
  have hreleases : ((ScratchPool.new capacity).after moves).releases =
      moves.countP Move.isReturn :=
    (releases_after (ScratchPool.new capacity) moves).trans (Nat.zero_add _)
  have hbalance : ((ScratchPool.new capacity).after moves).available +
      ((ScratchPool.new capacity).after moves).hits +
      (ScratchPool.new capacity).overflows moves =
        ((ScratchPool.new capacity).after moves).releases :=
    (balance_after (ScratchPool.new capacity) moves).trans (Nat.zero_add _)
  have hclean := (Clean.new capacity).after moves
  have hdropped := h moves List.prefix_rfl
  rw [Nat.zero_add] at hdropped
  refine ⟨hclean.zero, ?_, hacquisitions, ?_, hdropped, ?_, Nat.le.intro hbalance, ?_, ?_⟩
  · have hlength := hclean.available_le
    rwa [capacity_after] at hlength
  · rw [hreleases, countP_isReturn]
  · rw [hreleases, countP_isReturn, hacquisitions, outstanding]
    omega
  · rw [← hbalance, Nat.left_eq_add, overflows_eq_zero_iff]
    simp only [not_overflow_iff]
  · intro hfits
    rw [hacquisitions, hreleases]
    exact ⟨Nat.lt_of_le_of_lt List.count_le_length hfits,
      Nat.lt_of_le_of_lt List.countP_le_length hfits⟩

namespace Workspace
variable {ι : Type} [DecidableEq ι]

omit [DecidableEq ι] in
theorem nodup_names_new (capacity : Nat) : (new capacity : Workspace ι).names.Nodup :=
  List.nodup_nil

/-- What is out after steps is what is held. -/
theorem length_held_run (capacity : Nat) (steps : List (Step ι)) :
    ((new capacity).run steps).held.length = outstanding ((new capacity).movesOf steps) := by
  have hlength := length_names_run (nodup_names_new capacity) steps
  change _ + _ = 0 + _ at hlength
  rw [names, List.length_map] at hlength
  rw [outstanding]
  omega

/-- The books of a workspace over a pool that was never used. -/
structure Audited (capacity : Nat) (steps : List (Step ι)) : Prop where
  /-- The books are right after the steps. -/
  accounts : Accounts capacity ((new capacity).run steps).held.length
    ((new capacity).movesOf steps) ((new capacity).run steps).pool
  /-- The pool went through the moves of the steps. -/
  pool : ((new capacity).run steps).pool =
    (ScratchPool.new capacity).after ((new capacity).movesOf steps)
  /-- The books were right all the time before, in the middle of a step as well. -/
  before : ∀ moves, moves <+: (new capacity).movesOf steps →
    Accounts capacity (outstanding moves) moves ((ScratchPool.new capacity).after moves)

/-- **The counters of a pool account for everything that was done with it.** -/
theorem audited (capacity : Nat) (steps : List (Step ι)) : Audited capacity steps := by
  have hcovered : Covered 0 ((new capacity).movesOf steps) :=
    covered_movesOf (nodup_names_new capacity) steps
  constructor
  · rw [length_held_run, run_pool]
    exact hcovered.accounts capacity
  · exact run_pool _ steps
  · intro moves hpart
    exact Covered.accounts capacity fun first hfirst => hcovered first (hfirst.trans hpart)

/-- One name is let go, another borrows anew, and a swap is priced. -/
def pricedLast : List (Step Nat) :=
  [.acquire 0, .acquire 1, .letGo 0, .acquire 1, .compute 1000 5000 5000 3]

/-- At a pool that keeps one integer nothing overflows before the swap. -/
theorem audited_of_priced_last :
    [.borrow, .borrow, .drop, .borrow, .drop] <+: (new 1).movesOf pricedLast ∧
      (∀ before move since, [.borrow, .borrow, .drop, .borrow, .drop] = before ++ move :: since →
        move.isReturn = true → ((ScratchPool.new 1).after before).available < 1) ∧
      ((new 1).movesOf pricedLast).length < UInt64.size ∧
      ((new 1).run pricedLast).pool.hits + ((new 1).run pricedLast).pool.misses = 6 ∧
      ((new 1).run pricedLast).pool.releases = 5 ∧
      ((new 1).run pricedLast).pool.releases < UInt64.size := by
  have hpart : [.borrow, .borrow, .drop, .borrow, .drop] <+: (new 1).movesOf pricedLast :=
    ⟨_, rfl⟩
  have hlength : ((new 1).movesOf pricedLast).length < UInt64.size := by decide
  have haccounts := (audited 1 pricedLast).accounts
  exact ⟨hpart, ((audited 1 pricedLast).before _ hpart).eq_iff.mp rfl, hlength,
    haccounts.acquisitions, haccounts.releases, (haccounts.fits hlength).2⟩

end Workspace

end PairQuote.ScratchPool
