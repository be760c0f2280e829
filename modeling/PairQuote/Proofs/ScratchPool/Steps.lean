import PairQuote.Proofs.ScratchPool.Moves

/-! # Steps as moves

A step of a workspace is a row of moves on its pool (`Workspace.moves`), which depends on
nothing but on who holds an integer.  `Workspace.run_pool` follows the pool through a run by
its moves, and `Workspace.length_names_apply` the number of integers that are out.
-/
namespace PairQuote.ScratchPool

namespace Workspace
variable {ι : Type} [DecidableEq ι] {w : Workspace ι} {id : ι}

/-! ## The moves of a step -/

/-- Whether an integer is held under a name. -/
def holds (w : Workspace ι) (id : ι) : Bool := (w.value? id).isSome

/-- The moves that a step makes. -/
def moves (w : Workspace ι) : Step ι → List Move
  | .acquire id => if w.holds id then [.borrow, .drop] else [.borrow]
  | .letGo id => if w.holds id then [.drop] else []
  | .release _ count => List.replicate count .handBack
  | .compute _ _ _ feeRemoved =>
    match Fee.ofRemoved feeRemoved with
    | .ok fee => computing fee
    | .error _ => []
  | .set .. | .add .. | .multiply .. | .get _ => []

/-- The moves that steps make, in turn. -/
def movesOf (w : Workspace ι) : List (Step ι) → List Move
  | [] => []
  | step :: steps => w.moves step ++ movesOf (w.apply step).2 steps

@[simp] theorem run_nil : w.run [] = w := rfl

@[simp] theorem run_cons (step : Step ι) (steps : List (Step ι)) :
    w.run (step :: steps) = (w.apply step).2.run steps := rfl

theorem run_append (first second : List (Step ι)) :
    w.run (first ++ second) = (w.run first).run second :=
  List.foldl_append

theorem letGo_of_some {value : Nat} (h : w.value? id = some value) :
    w.letGo id = ⟨w.pool.release value, w.others id⟩ := by
  unfold letGo
  rw [h]

theorem letGo_of_none (h : w.value? id = none) : w.letGo id = w := by
  unfold letGo
  rw [h]

/-- The new integer is borrowed before the old one goes. -/
theorem acquire_eq (w : Workspace ι) (id : ι) :
    w.acquire id = ⟨(letGo id ⟨w.pool.acquire.2, w.held⟩).pool,
      (id, w.pool.acquire.1) :: (letGo id ⟨w.pool.acquire.2, w.held⟩).held⟩ := rfl

theorem letGo_pool (w : Workspace ι) (id : ι) :
    (w.letGo id).pool = w.pool.after (if w.holds id then [.drop] else []) := by
  unfold holds
  cases h : w.value? id with
  | none => rw [letGo_of_none h]; rfl
  | some value => rw [letGo_of_some h]; rfl

/-- **A step does to the pool what its moves do.** -/
theorem apply_pool (w : Workspace ι) (step : Step ι) :
    (w.apply step).2.pool = w.pool.after (w.moves step) := by
  cases step with
  | acquire id =>
    change (w.acquire id).pool = _
    rw [acquire_eq, letGo_pool, moves]
    change (Move.borrow.on w.pool).after (if w.holds id then [.drop] else []) = _
    split <;> rfl
  | letGo id => exact letGo_pool w id
  | release value count =>
    have hall := releaseAll_eq_after .handBack rfl (List.replicate count value) w.pool
    rwa [List.length_replicate] at hall
  | compute amountIn reserveIn reserveOut feeRemoved =>
    change (w.compute amountIn reserveIn reserveOut feeRemoved).2.pool = _
    rw [compute, moves]
    cases Fee.ofRemoved feeRemoved with
    | error e => rfl
    | ok fee => exact amountOut_run_snd amountIn reserveIn reserveOut fee w.pool
  | set | add | multiply | get => rfl

/-- The pool after a run is the pool after its moves. -/
theorem run_pool (w : Workspace ι) (steps : List (Step ι)) :
    (w.run steps).pool = w.pool.after (w.movesOf steps) := by
  induction steps generalizing w with
  | nil => rfl
  | cons step steps ih => rw [run_cons, ih, apply_pool, movesOf, after_append]

theorem clean_run {capacity : Nat} (steps : List (Step ι)) :
    Clean ((new capacity : Workspace ι).run steps).pool := by
  rw [run_pool]
  exact (Clean.new capacity).after _

/-! ## The integers that are out -/

/-- The names under which integers are held. -/
def names (w : Workspace ι) : List ι := w.held.map Prod.fst

theorem value?_eq_none_iff : w.value? id = none ↔ id ∉ w.names := by
  unfold value? names
  rw [List.lookup_eq_none_iff]
  constructor
  · intro h hid
    obtain ⟨entry, hentry, rfl⟩ := List.mem_map.mp hid
    exact absurd rfl (bne_iff_ne.mp (h entry hentry))
  · intro h entry hentry
    refine bne_iff_ne.mpr ?_
    rintro rfl
    exact h (List.mem_map_of_mem hentry)

theorem holds_iff : w.holds id = true ↔ id ∈ w.names := by
  rw [holds, Option.isSome_iff_ne_none, Ne, value?_eq_none_iff, Classical.not_not]

theorem map_fst_others (w : Workspace ι) (id : ι) :
    (w.others id).map Prod.fst = w.names.filter (· ≠ id) := by
  rw [names, List.filter_map]
  rfl

/-- Whoever lets go holds nothing any more; all others keep what they hold. -/
theorem held_letGo (w : Workspace ι) (id : ι) : (w.letGo id).held = w.others id := by
  cases h : w.value? id with
  | some value => rw [letGo_of_some h]
  | none =>
    rw [letGo_of_none h]
    refine (List.filter_eq_self.mpr fun entry hentry => decide_eq_true ?_).symm
    rintro rfl
    exact value?_eq_none_iff.mp h (List.mem_map_of_mem hentry)

theorem held_acquire (w : Workspace ι) (id : ι) :
    (w.acquire id).held = (id, w.pool.acquire.1) :: w.others id := by
  rw [acquire_eq, held_letGo]
  rfl

/-- A change of a value renames nothing. -/
@[simp] theorem names_update (w : Workspace ι) (id : ι) (f : Nat → Nat) :
    (w.update id f).names = w.names := by
  unfold names update
  rw [List.map_map]
  refine List.map_congr_left fun entry _ => ?_
  obtain ⟨name, n⟩ := entry
  by_cases h : name = id <;> simp [h]

omit [DecidableEq ι] in
theorem compute_held (w : Workspace ι) (amountIn reserveIn reserveOut feeRemoved : Nat) :
    (w.compute amountIn reserveIn reserveOut feeRemoved).2.held = w.held := by
  unfold compute
  cases Fee.ofRemoved feeRemoved <;> rfl

/-- What a step does to the names. -/
theorem names_apply (w : Workspace ι) (step : Step ι) :
    ((w.apply step).2.names = w.names ∧ (w.moves step).count .drop = (w.moves step).count .borrow) ∨
    (∃ id, step = .acquire id ∧ (w.apply step).2.names = id :: w.names.filter (· ≠ id)) ∨
    (∃ id, step = .letGo id ∧ (w.apply step).2.names = w.names.filter (· ≠ id)) := by
  cases step with
  | acquire id =>
    refine .inr (.inl ⟨id, rfl, ?_⟩)
    change (w.acquire id).held.map Prod.fst = _
    rw [held_acquire, List.map_cons, map_fst_others]
  | letGo id =>
    refine .inr (.inr ⟨id, rfl, ?_⟩)
    change (w.letGo id).held.map Prod.fst = _
    rw [held_letGo, map_fst_others]
  | set id value | add id value | multiply id value => exact .inl ⟨names_update w id _, rfl⟩
  | get id => exact .inl ⟨rfl, rfl⟩
  | release value count =>
    refine .inl ⟨rfl, ?_⟩
    simp [moves, List.count_replicate]
  | compute amountIn reserveIn reserveOut feeRemoved =>
    refine .inl ⟨congrArg (List.map Prod.fst) (compute_held w _ _ _ feeRemoved), ?_⟩
    rw [moves]
    cases Fee.ofRemoved feeRemoved with
    | error e => rfl
    | ok fee => simp [computing, List.count_replicate]

/-- No two integers are held under one name. -/
theorem nodup_names_apply (h : w.names.Nodup) (step : Step ι) : (w.apply step).2.names.Nodup := by
  rcases w.names_apply step with ⟨hnames, -⟩ | ⟨id, -, hnames⟩ | ⟨id, -, hnames⟩
  · rwa [hnames]
  · rw [hnames]
    refine List.nodup_cons.mpr ⟨fun hid => ?_, h.filter _⟩
    exact of_decide_eq_true (List.mem_filter.mp hid).2 rfl
  · rw [hnames]
    exact h.filter _

theorem length_filter_names (h : w.names.Nodup) (id : ι) :
    (w.names.filter (· ≠ id)).length + (if w.holds id then 1 else 0) = w.names.length := by
  have herase : w.names.filter (· ≠ id) = w.names.erase id := by
    rw [h.erase_eq_filter]
    exact List.filter_congr fun name _ => decide_not
  rw [herase]
  by_cases hid : id ∈ w.names
  · have hpos := List.length_pos_of_mem hid
    rw [List.length_erase_of_mem hid, if_pos (holds_iff.mpr hid)]
    omega
  · rw [List.erase_of_not_mem hid, if_neg (fun hholds => hid (holds_iff.mp hholds))]
    rfl

/-- **A step changes the number of integers that are out by its borrowings and drops.** -/
theorem length_names_apply (h : w.names.Nodup) (step : Step ι) :
    (w.apply step).2.names.length + (w.moves step).count .drop =
      w.names.length + (w.moves step).count .borrow := by
  rcases w.names_apply step with ⟨hnames, hcount⟩ | ⟨id, rfl, hnames⟩ | ⟨id, rfl, hnames⟩
  · rw [hnames, hcount]
  · have hlength := length_filter_names h id
    rw [hnames, List.length_cons, moves]
    -- Whoever holds one already borrows one and drops one.
    by_cases hholds : w.holds id = true
    · rw [if_pos hholds] at hlength ⊢
      change _ + 1 + 1 = _ + 1
      omega
    · rw [if_neg hholds] at hlength ⊢
      change _ + 1 + 0 = _ + 1
      omega
  · have hlength := length_filter_names h id
    rw [hnames, moves]
    by_cases hholds : w.holds id = true
    · rw [if_pos hholds] at hlength ⊢
      exact hlength
    · rw [if_neg hholds] at hlength ⊢
      exact hlength

end Workspace

end PairQuote.ScratchPool
