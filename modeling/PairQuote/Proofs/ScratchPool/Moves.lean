import PairQuote.ScratchPool.Workspace

/-! # Moves on the free list

Whatever is done with scratch integers, a pool sees only **moves**: an integer is borrowed,
a borrowed one is dropped, or one that was made elsewhere is handed back.  `on_borrow_cases`
and `on_return_cases` say once what a move does; everything about the free list and its
counters starts from them.

A free list is `Clean`: whatever comes to it is reset, so what is borrowed from it is zero.
A computation borrows all its integers, three or four, and then drops them
(`amountOut_run_snd`).
-/
namespace PairQuote.ScratchPool

/-- What a pool sees of whatever is done with its integers. -/
inductive Move where
  | borrow
  /-- A borrowed integer comes back. -/
  | drop
  /-- An integer made elsewhere is handed back. -/
  | handBack
  deriving DecidableEq, Repr

namespace Move

/-- Whether an integer comes to the pool. -/
def isReturn : Move → Bool
  | .borrow => false
  | .drop | .handBack => true

/-- The pool after a move.  It does not matter what a returned integer held. -/
def on (p : ScratchPool) : Move → ScratchPool
  | .borrow => p.acquire.2
  | .drop | .handBack => p.release 0

end Move

variable {p : ScratchPool} {move : Move}

/-- The pool after moves. -/
def after (p : ScratchPool) (moves : List Move) : ScratchPool := moves.foldl Move.on p

@[simp] theorem after_cons (moves : List Move) :
    p.after (move :: moves) = (move.on p).after moves := rfl

theorem after_append (first second : List Move) :
    p.after (first ++ second) = (p.after first).after second :=
  List.foldl_append

/-! ## One move -/

/-- Borrowing takes the last integer of the list, or makes a new one if there is none. -/
theorem on_borrow_cases (p : ScratchPool) :
    (∃ rest value, p.free = rest.push value ∧ p.acquire.1 = value ∧
      Move.borrow.on p = { p with free := rest, hits := p.hits + 1 }) ∨
    (p.free = #[] ∧ p.acquire.1 = 0 ∧
      Move.borrow.on p = { p with misses := p.misses + 1 }) := by
  unfold Move.on acquire
  cases h : p.free.back? with
  | none => exact .inr ⟨Array.back?_eq_none_iff.mp h, rfl, rfl⟩
  | some value =>
    obtain ⟨rest, hfree⟩ := Array.back?_eq_some_iff.mp h
    refine .inl ⟨rest, value, hfree, rfl, ?_⟩
    rw [hfree, Array.pop_push]

theorem on_return (p : ScratchPool) (hmove : move.isReturn = true) : move.on p = p.release 0 := by
  cases move with
  | borrow => cases hmove
  | drop | handBack => rfl

/-- An integer that comes back is reset and kept if there is room. -/
theorem on_return_cases (p : ScratchPool) (hmove : move.isReturn = true) :
    (p.available < p.capacity ∧
      move.on p = { p with free := p.free.push 0, releases := p.releases + 1 }) ∨
    (p.capacity ≤ p.available ∧ move.on p = { p with releases := p.releases + 1 }) := by
  rw [on_return p hmove]
  unfold release
  by_cases hroom : p.free.size < p.capacity
  · exact .inl ⟨hroom, by rw [if_pos hroom]⟩
  · exact .inr ⟨Nat.le_of_not_lt hroom, by rw [if_neg hroom]⟩

@[simp] theorem capacity_on (p : ScratchPool) (move : Move) :
    (move.on p).capacity = p.capacity := by
  cases move with
  | borrow =>
    rcases on_borrow_cases p with ⟨rest, value, -, -, h⟩ | ⟨-, -, h⟩ <;> rw [h]
  | drop | handBack => rfl

@[simp] theorem capacity_after (p : ScratchPool) (moves : List Move) :
    (p.after moves).capacity = p.capacity := by
  induction moves generalizing p with
  | nil => rfl
  | cons move moves ih => rw [after_cons, ih, capacity_on]

/-! ## The free list is clean -/

/-- Every integer on the free list is zero, and there is room for all of them. -/
structure Clean (p : ScratchPool) : Prop where
  zero : ∀ value ∈ p.free, value = 0
  available_le : p.available ≤ p.capacity

namespace Clean

theorem new (capacity : Nat) : Clean (ScratchPool.new capacity) :=
  ⟨fun _ hvalue => absurd hvalue (Array.not_mem_empty _), Nat.zero_le capacity⟩

/-- A borrowed integer starts from zero. -/
theorem acquire_eq_zero (h : Clean p) : p.acquire.1 = 0 := by
  rcases on_borrow_cases p with ⟨rest, value, hfree, hvalue, -⟩ | ⟨-, hzero, -⟩
  · rw [hvalue]
    refine h.zero value ?_
    rw [hfree]
    exact Array.mem_push_self
  · exact hzero

theorem on (h : Clean p) (move : Move) : Clean (move.on p) := by
  cases hmove : move.isReturn with
  | false =>
    cases move with
    | drop | handBack => cases hmove
    | borrow =>
      rcases on_borrow_cases p with ⟨rest, value, hfree, -, hon⟩ | ⟨-, -, hon⟩
      · have hlength := h.available_le
        rw [available, hfree, Array.size_push] at hlength
        rw [hon]
        refine ⟨fun v hv => h.zero v ?_, Nat.le_of_succ_le hlength⟩
        rw [hfree]
        exact Array.mem_push_of_mem _ hv
      · rw [hon]
        exact ⟨h.zero, h.available_le⟩
  | true =>
    rcases on_return_cases p hmove with ⟨hroom, hon⟩ | ⟨-, hon⟩
    · rw [hon]
      constructor
      · intro value hvalue
        rcases Array.mem_push.mp hvalue with hold | hnew
        · exact h.zero value hold
        · exact hnew
      · rw [available, Array.size_push]
        exact hroom
    · rw [hon]
      exact ⟨h.zero, h.available_le⟩

theorem after (h : Clean p) (moves : List Move) : Clean (p.after moves) := by
  induction moves generalizing p with
  | nil => exact h
  | cons move moves ih => exact ih (h.on move)

end Clean

/-! ## A computation -/

/-- How many integers a computation borrows; it holds them all at once. -/
def demand (fee : Fee) : Nat := if fee.isPreset then 3 else 4

/-- The moves of a computation. -/
def computing (fee : Fee) : List Move :=
  List.replicate (demand fee) .borrow ++ List.replicate (demand fee) .drop

theorem releaseAll_eq_after (move : Move) (hmove : move.isReturn = true) (values : List Nat)
    (p : ScratchPool) :
    p.releaseAll values = p.after (List.replicate values.length move) := by
  induction values generalizing p with
  | nil => rfl
  | cons value values ih =>
    rw [List.length_cons, List.replicate_succ, after_cons, on_return p hmove]
    exact ih (p.release value)

section Work
variable {σ α β : Type} {state : σ}

/-- Work goes on from the state it left. -/
theorem run_bind (work : StateM σ α) (next : α → StateM σ β) :
    (work >>= next).run state = (next (work.run state).1).run (work.run state).2 := rfl

theorem run_modify (f : σ → σ) : (modify f : StateM σ PUnit).run state = (⟨⟩, f state) := rfl

theorem run_pure (a : α) : (pure a : StateM σ α).run state = (a, state) := rfl

end Work

theorem load_run (value : Nat) (p : ScratchPool) :
    (load value).run p = (value, Move.borrow.on p) := rfl

/-- The multiplier takes an integer of its own unless it is kept ready. -/
theorem multiplier_run_snd (fee : Fee) (p : ScratchPool) :
    ((Swap.multiplier fee).run p).1.2.length + 3 = demand fee ∧
      ((Swap.multiplier fee).run p).2.after (List.replicate 3 .borrow) =
        p.after (List.replicate (demand fee) .borrow) := by
  unfold Swap.multiplier demand Fee.isPreset
  cases fee.readyMultiplier? with
  | some ready => exact ⟨rfl, rfl⟩
  | none =>
    have hdemand : (if (none : Option Nat).isSome = true then 3 else 4) = 4 := rfl
    rw [hdemand, List.replicate_succ (n := 3), after_cons]
    exact ⟨rfl, rfl⟩

/-- **A computation borrows its integers and drops them all.** -/
theorem amountOut_run_snd (amountIn reserveIn reserveOut : Nat) (fee : Fee) (p : ScratchPool) :
    ((Swap.amountOut amountIn reserveIn reserveOut fee).run p).2 = p.after (computing fee) := by
  obtain ⟨hlength, hborrowed⟩ := multiplier_run_snd fee p
  -- The integer of the multiplier, if it has one, is dropped together with the other three.
  have hdrops : ∀ above below withFee : Nat,
      ([above, below, withFee] ++ ((Swap.multiplier fee).run p).1.2).length = demand fee := by
    intro above below withFee
    rw [List.length_append, Nat.add_comm, ← hlength]
    rfl
  unfold Swap.amountOut
  simp only [run_bind, load_run, run_modify, run_pure]
  rw [releaseAll_eq_after .drop rfl, hdrops, computing, after_append, ← hborrowed]
  rfl

end PairQuote.ScratchPool
