import PairQuote.Proofs.ScratchPool.Computation
import PairQuote.Proofs.Swap.InPlace

/-! # What a computation leaves behind

A computation borrows three integers if the multiplier of its fee is kept ready and four
otherwise (`demand_eq`), and holds all of them before it lets the first one go.  So its effect on
the pool depends on three numbers only: how many integers wait on the free list, how many it
borrows, and how many the list may keep.  The list serves the first borrowings, new integers are
made for the others, and what comes back fills the list up to its capacity but never shortens it.

`Workspace.Computed` says this together with what is held: nobody else's integer is touched.  It
is so at every pool that a run of steps can reach, for a swap that is priced at once and for the
computation in place (`Workspace.computed`).
-/
namespace PairQuote

/-- A multiplier is kept ready for the three presets only. -/
theorem Fee.isPreset_iff (fee : Fee) :
    fee.isPreset = true ↔ fee.removed = 3 ∨ fee.removed = 5 ∨ fee.removed = 10 := by
  obtain ⟨removed, hlt⟩ := fee
  rw [isPreset, readyMultiplier?, List.lookup_isSome_iff]
  simp only [presets, List.mem_cons, List.not_mem_nil, or_false, exists_eq_or_imp, exists_eq_left,
    beq_iff_eq, percent030, percent050, percent100, mk.injEq]

namespace ScratchPool
open Swap (amountInPlace FreeNames)

/-- The multiplier of any other fee needs an integer of its own. -/
theorem demand_eq (fee : Fee) :
    demand fee = if fee.removed = 3 ∨ fee.removed = 5 ∨ fee.removed = 10 then 3 else 4 := by
  rw [demand]
  simp only [fee.isPreset_iff]

namespace Workspace
variable {ι : Type} [DecidableEq ι]

/-- The effect of a computation that holds `n` integers at once, from one workspace to another. -/
structure Computed (n : Nat) (w w' : Workspace ι) : Prop where
  capacity : w'.pool.capacity = w.pool.capacity
  /-- The list is as full as before, or as full as what was borrowed can make it. -/
  available : w'.pool.available = max w.pool.available (min n w.pool.capacity)
  hits : w'.pool.hits = w.pool.hits + min w.pool.available n
  misses : w'.pool.misses = w.pool.misses + (n - min w.pool.available n)
  releases : w'.pool.releases = w.pool.releases + n
  /-- The integers that are out are the same as before, each with its value. -/
  held : w'.held = w.held

omit [DecidableEq ι] in
/-- The moves of a computation have this effect where the list is not longer than allowed. -/
theorem computed_of_moves {w : Workspace ι} (hroom : w.pool.available ≤ w.pool.capacity)
    (fee : Fee) : Computed (demand fee) w ⟨w.pool.after (computing fee), w.held⟩ := by
  obtain ⟨havailable, hhits, hmisses, hreleases⟩ := figures_eq_iff.mp (figures_computing hroom fee)
  have hmade : demand fee - w.pool.available = demand fee - min w.pool.available (demand fee) := by
    omega
  exact ⟨capacity_after _ _, havailable, hhits, hmade ▸ hmisses, hreleases, rfl⟩

/-- **The effect of one computation**, after any steps on a pool of any capacity, with any amount,
reserves and fee.  It is the same whether the swap is priced at once or computed in place. -/
theorem computed (capacity : Nat) (steps : List (Step ι)) (amountIn reserveIn reserveOut : Nat)
    (fee : Fee) :
    let n := if fee.removed = 3 ∨ fee.removed = 5 ∨ fee.removed = 10 then 3 else 4
    let w := (new capacity).run steps
    w.pool.capacity = capacity ∧
      Computed n w (w.apply (.compute amountIn reserveIn reserveOut fee.removed)).2 ∧
      ∀ own : FreeNames w,
        Computed n w ((amountInPlace own.name amountIn reserveIn reserveOut fee).run w).2 := by
  intro n w
  have hroom : w.pool.available ≤ w.pool.capacity := (clean_run steps).available_le
  have hmoves := computed_of_moves hroom fee
  rw [demand_eq] at hmoves
  refine ⟨?_, ?_, fun own => ?_⟩
  · rw [run_pool, capacity_after]
    rfl
  · change Computed n w (w.compute amountIn reserveIn reserveOut fee.removed).2
    rw [Swap.compute_removed]
    exact hmoves
  · rw [Swap.amountInPlace_run own.injective own.free]
    exact hmoves

/-- A list that keeps two integers gains one of the four that a swap with an unusual fee borrows,
of which it has served one. -/
example :
    let w := (new 2 : Workspace Nat).run [.acquire 0, .set 0 7, .release 9 1]
    (w.pool.available, w.pool.hits, w.pool.misses, w.pool.releases) = (1, 0, 1, 1) ∧
      let w' := (w.apply (.compute 1000 5000 5000 25)).2
      (w'.pool.available, w'.pool.hits, w'.pool.misses, w'.pool.releases) = (2, 1, 4, 5) ∧
        w'.value? 0 = some 7 := by decide

end Workspace

end ScratchPool

end PairQuote
