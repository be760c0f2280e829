import PairQuote.Proofs.ScratchPool.Moves

/-! # What a computation does to the numbers

A pool shows four numbers, its **figures**.  A computation borrows all its integers before
it drops them, so its effect on the figures is a closed form in what waits on the list
(`figures_computing`): the list serves what it can, new integers are made for the rest, and
what comes back fills the list as far as it has room.

A pool that sees nothing but computations with one fee settles with the first: from then on
each one finds on the list what the one before has left there (`figures_computings`).
-/
namespace PairQuote.ScratchPool

variable {p : ScratchPool}

/-- The numbers that a pool shows. -/
structure Figures where
  available : Nat
  hits : Nat
  misses : Nat
  releases : Nat
  deriving DecidableEq, Repr

/-- The figures of a pool. -/
def figures (p : ScratchPool) : Figures := ⟨p.available, p.hits, p.misses, p.releases⟩

/-- Equal figures are equal number by number. -/
theorem figures_eq_iff {available hits misses releases : Nat} :
    p.figures = ⟨available, hits, misses, releases⟩ ↔
      p.available = available ∧ p.hits = hits ∧ p.misses = misses ∧ p.releases = releases :=
  Iff.of_eq (Figures.mk.injEq ..)

/-! ## Borrowings and drops in a row -/

theorem figures_borrow (p : ScratchPool) : (Move.borrow.on p).figures =
    ⟨p.available - 1, p.hits + min p.available 1, p.misses + (1 - p.available),
      p.releases⟩ := by
  rcases on_borrow_cases p with ⟨rest, value, hfree, -, hon⟩ | ⟨hfree, -, hon⟩
  · have hsize : p.available = rest.size + 1 := by rw [available, hfree, Array.size_push]
    rw [hon, hsize, figures_eq_iff]
    refine ⟨rfl, ?_, ?_, rfl⟩
    · change p.hits + 1 = p.hits + min (rest.size + 1) 1
      omega
    · change p.misses = p.misses + (1 - (rest.size + 1))
      omega
  · have hsize : p.available = 0 := by rw [available, hfree, Array.size_empty]
    rw [hon, hsize, figures_eq_iff]
    exact ⟨hsize, rfl, rfl, rfl⟩

/-- The list serves borrowings as long as it lasts. -/
theorem figures_borrows (p : ScratchPool) (n : Nat) :
    (p.after (List.replicate n .borrow)).figures =
      ⟨p.available - n, p.hits + min p.available n, p.misses + (n - p.available),
        p.releases⟩ := by
  induction n generalizing p with
  | zero =>
    rw [figures_eq_iff]
    refine ⟨rfl, ?_, ?_, rfl⟩
    · change p.hits = p.hits + min p.available 0
      omega
    · change p.misses = p.misses + (0 - p.available)
      omega
  | succ n ih =>
    obtain ⟨havailable, hhits, hmisses, hreleases⟩ := figures_eq_iff.mp (figures_borrow p)
    rw [List.replicate_succ, after_cons, ih, havailable, hhits, hmisses, hreleases]
    rw [Figures.mk.injEq]
    omega

theorem figures_drop (p : ScratchPool) (hroom : p.available ≤ p.capacity) :
    (Move.drop.on p).figures =
      ⟨min (p.available + 1) p.capacity, p.hits, p.misses, p.releases + 1⟩ := by
  have hreturn : Move.drop.isReturn = true := rfl
  rcases on_return_cases p hreturn with ⟨hlt, hon⟩ | ⟨hfull, hon⟩
  · rw [hon, figures_eq_iff]
    refine ⟨?_, rfl, rfl, rfl⟩
    rw [available, Array.size_push]
    exact (Nat.min_eq_left hlt).symm
  · rw [hon, figures_eq_iff]
    refine ⟨?_, rfl, rfl, rfl⟩
    change p.available = min (p.available + 1) p.capacity
    omega

/-- Drops fill the list. -/
theorem figures_drops (p : ScratchPool) (hroom : p.available ≤ p.capacity) (n : Nat) :
    (p.after (List.replicate n .drop)).figures =
      ⟨min (p.available + n) p.capacity, p.hits, p.misses, p.releases + n⟩ := by
  induction n generalizing p with
  | zero =>
    rw [figures_eq_iff]
    exact ⟨(Nat.min_eq_left hroom).symm, rfl, rfl, rfl⟩
  | succ n ih =>
    obtain ⟨havailable, hhits, hmisses, hreleases⟩ :=
      figures_eq_iff.mp (figures_drop p hroom)
    have hstill : (Move.drop.on p).available ≤ (Move.drop.on p).capacity := by
      rw [havailable, capacity_on]
      exact Nat.min_le_right _ _
    rw [List.replicate_succ, after_cons, ih _ hstill, havailable, hhits, hmisses, hreleases,
      capacity_on]
    rw [Figures.mk.injEq]
    omega

/-! ## Computations -/

/-- **The effect of a computation.**  The list serves what it can and the rest is made new;
afterwards the list is as full as it was, or as what was borrowed can fill it. -/
theorem figures_computing (hroom : p.available ≤ p.capacity) (fee : Fee) :
    (p.after (computing fee)).figures =
      ⟨max p.available (min (demand fee) p.capacity), p.hits + min p.available (demand fee),
        p.misses + (demand fee - p.available), p.releases + demand fee⟩ := by
  obtain ⟨havailable, hhits, hmisses, hreleases⟩ :=
    figures_eq_iff.mp (figures_borrows p (demand fee))
  have hborrowed : (p.after (List.replicate (demand fee) .borrow)).available ≤
      (p.after (List.replicate (demand fee) .borrow)).capacity := by
    rw [havailable, capacity_after]
    exact Nat.le_trans (Nat.sub_le _ _) hroom
  rw [computing, after_append, figures_drops _ hborrowed, havailable, hhits, hmisses, hreleases,
    capacity_after]
  rw [Figures.mk.injEq]
  omega

/-- Computations with one fee on a pool that was never used.  All but the first find on the
list what the list has room for. -/
theorem figures_computings (capacity n : Nat) (fee : Fee) :
    ((ScratchPool.new capacity).after (List.replicate (n + 1) (computing fee)).flatten).figures =
      ⟨min (demand fee) capacity, n * min (demand fee) capacity,
        demand fee + n * (demand fee - min (demand fee) capacity), (n + 1) * demand fee⟩ := by
  induction n with
  | zero =>
    have hfirst := figures_computing (p := ScratchPool.new capacity) (Nat.zero_le _) fee
    rw [List.replicate_one, List.flatten_singleton, hfirst, Figures.mk.injEq]
    change max 0 (min _ capacity) = _ ∧ 0 + min 0 _ = _ ∧ 0 + (_ - 0) = _ ∧ 0 + _ = _
    omega
  | succ n ih =>
    obtain ⟨havailable, hhits, hmisses, hreleases⟩ := figures_eq_iff.mp ih
    have hroom := ((Clean.new capacity).after
      (List.replicate (n + 1) (computing fee)).flatten).available_le
    rw [List.replicate_succ', List.flatten_append, List.flatten_singleton, after_append,
      figures_computing hroom, havailable, hhits, hmisses, hreleases, capacity_after]
    rw [Figures.mk.injEq, Nat.succ_mul n, Nat.succ_mul n, Nat.succ_mul (n + 1)]
    change max _ (min _ capacity) = _ ∧ _
    omega

end PairQuote.ScratchPool
