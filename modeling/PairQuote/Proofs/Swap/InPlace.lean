import PairQuote.Proofs.ScratchPool.Borrowers

/-! # Pricing step by step

`Swap.amountOut` hands numbers on from one borrowed integer to the next.  `Swap.amountInPlace` is
the same computation in the single steps of a borrower, who takes integers under names of its
own, overwrites them, multiplies and adds to them where they are, reads one to fill another, and
lets all of them go at the end.

Whatever else is held at the pool and whatever the borrowed integers held before, both pay the
same and leave the same behind (`Swap.compute_eq_amountInPlace`).  What is paid is the closed
form, for every fee, whether its multiplier is kept ready or built (`Swap.pays_output`).

Every change is made to the integer that was borrowed last, so an integer stands in front of
those that were held before it, and is let go before them.
-/
namespace PairQuote

open ScratchPool

namespace ScratchPool.Workspace
variable {ι : Type} [DecidableEq ι] {w : Workspace ι} {p : ScratchPool} {id : ι} {n : Nat}

/-! ## The integer in front -/

/-- A workspace with one more integer out, in front of the others, and with another pool. -/
def push (p : ScratchPool) (id : ι) (n : Nat) (w : Workspace ι) : Workspace ι :=
  ⟨p, (id, n) :: w.held⟩

omit [DecidableEq ι] in
@[simp] theorem names_push : (w.push p id n).names = id :: w.names := rfl

theorem others_of_free (hfree : id ∉ w.names) : w.others id = w.held := by
  refine List.filter_eq_self.mpr fun entry hentry => decide_eq_true ?_
  rintro rfl
  exact hfree (List.mem_map_of_mem hentry)

theorem value?_push (other : ι) :
    (w.push p id n).value? other = if id = other then some n else w.value? other :=
  Entries.lookup_cons_if id other n w.held

/-- An integer is borrowed to the front. -/
theorem apply_acquire (hfree : id ∉ w.names) :
    (w.apply (.acquire id)).2 = w.push (Move.borrow.on w.pool) id w.pool.acquire.1 := by
  have hpool := apply_pool w (.acquire id)
  have hheld : (w.apply (.acquire id)).2.held = (id, w.pool.acquire.1) :: w.held := by
    rw [← others_of_free hfree]
    exact held_acquire w id
  rw [moves, if_neg (fun hholds => hfree (holds_iff.mp hholds))] at hpool
  exact congrArg₂ Workspace.mk hpool hheld

/-- A change of the integer in front changes no other. -/
theorem update_push (hfree : id ∉ w.names) (f : Nat → Nat) :
    (w.push p id n).update id f = w.push p id (f n) := by
  have hothers : (w.update id f).held = w.held := by
    refine Eq.trans (List.map_congr_left fun entry hentry => ?_) (List.map_id w.held)
    have hother : entry.1 ≠ id := fun hid => hfree (hid ▸ List.mem_map_of_mem hentry)
    exact if_neg hother
  have hfront : (if id = id then (id, f n) else (id, n)) = (id, f n) := if_pos rfl
  exact congrArg₂ (fun front held => Workspace.mk p (front :: held)) hfront hothers

/-- The integer in front is dropped. -/
theorem apply_letGo_push (hfree : id ∉ w.names) :
    ((w.push p id n).apply (.letGo id)).2 = ⟨Move.drop.on p, w.held⟩ := by
  have hvalue : (w.push p id n).value? id = some n := by rw [value?_push, if_pos rfl]
  have hothers : (w.push p id n).others id = w.held := by
    rw [← others_of_free hfree]
    exact List.filter_cons_of_neg (by simp)
  change (w.push p id n).letGo id = _
  rw [letGo_of_some hvalue, hothers]
  rfl

end ScratchPool.Workspace

namespace Swap
variable {ι : Type} [DecidableEq ι]

/-! ## The computation -/

/-- What the integers of a computation hold. -/
inductive Holding where
  | multiplier
  | withFee
  | below
  | above
  deriving DecidableEq, Repr

/-- Takes a step of a borrower. -/
def take (step : Step ι) : StateM (Workspace ι) PUnit := modify fun w => (w.apply step).2

/-- Looks at the integer under a name. -/
def look (id : ι) : StateM (Workspace ι) Nat := do return ((← get).value? id).getD 0

/-- Borrows an integer and overwrites it. -/
def fill (id : ι) (value : Nat) : StateM (Workspace ι) PUnit := do
  take (.acquire id)
  take (.set id value)

/-- The multiplier of a fee, built from zero in a borrowed integer. -/
def buildInPlace (own : Holding → ι) (fee : Fee) : StateM (Workspace ι) Nat := do
  fill (own .multiplier) 0
  take (.add (own .multiplier) fee.multiplier)
  look (own .multiplier)

/-- What is paid with a multiplier, from three borrowed integers. -/
def paidInPlace (own : Holding → ι) (amountIn reserveIn reserveOut m : Nat) :
    StateM (Workspace ι) Nat := do
  fill (own .withFee) amountIn
  take (.multiply (own .withFee) m)
  fill (own .below) reserveIn
  take (.multiply (own .below) Fee.denominator)
  take (.add (own .below) (← look (own .withFee)))
  fill (own .above) (← look (own .withFee))
  take (.multiply (own .above) reserveOut)
  let paid := (← look (own .above)) / (← look (own .below))
  take (.letGo (own .above))
  take (.letGo (own .below))
  take (.letGo (own .withFee))
  return paid

/-- The amount paid out, computed where the borrowed integers are. -/
def amountInPlace (own : Holding → ι) (amountIn reserveIn reserveOut : Nat) (fee : Fee) :
    StateM (Workspace ι) Nat := do
  let m ← fee.readyMultiplier?.elim (buildInPlace own fee) pure
  let paid ← paidInPlace own amountIn reserveIn reserveOut m
  take (.letGo (own .multiplier))
  return paid

section InPlace
variable {w : Workspace ι} {id : ι} {own : Holding → ι}

theorem run_bind_of {σ α β : Type} {work : StateM σ α} {next : α → StateM σ β} {state state' : σ}
    {a : α} (h : work.run state = (a, state')) :
    (work >>= next).run state = (next a).run state' := by
  rw [run_bind, h]

/-- What was in the borrowed integer does not matter. -/
theorem fill_run (hfree : id ∉ w.names) (value : Nat) :
    (fill id value).run w = (⟨⟩, w.push (Move.borrow.on w.pool) id value) := by
  refine (run_bind_of (congrArg (Prod.mk _) (Workspace.apply_acquire hfree))).trans ?_
  exact congrArg (Prod.mk _) (Workspace.update_push hfree fun _ => value)

theorem multiply_run (hfree : id ∉ w.names) (p : ScratchPool) (n value : Nat) :
    (take (.multiply id value)).run (w.push p id n) = (⟨⟩, w.push p id (n * value)) :=
  congrArg (Prod.mk _) (Workspace.update_push hfree (· * value))

theorem add_run (hfree : id ∉ w.names) (p : ScratchPool) (n value : Nat) :
    (take (.add id value)).run (w.push p id n) = (⟨⟩, w.push p id (n + value)) :=
  congrArg (Prod.mk _) (Workspace.update_push hfree (· + value))

theorem letGo_run (hfree : id ∉ w.names) (p : ScratchPool) (n : Nat) :
    (take (.letGo id)).run (w.push p id n) = (⟨⟩, ⟨Move.drop.on p, w.held⟩) :=
  congrArg (Prod.mk _) (Workspace.apply_letGo_push hfree)

theorem look_run {value : Nat} (h : w.value? id = some value) : (look id).run w = (value, w) := by
  change ((w.value? id).getD 0, w) = _
  rw [h]
  rfl

/-- Three integers stand one in front of the other until it is known what is paid. -/
theorem paidInPlace_run (hinj : Function.Injective own)
    (hfree : ∀ holding, holding ≠ .multiplier → own holding ∉ w.names)
    (amountIn reserveIn reserveOut m : Nat) :
    (paidInPlace own amountIn reserveIn reserveOut m).run w =
      (amountIn * m * reserveOut / (reserveIn * Fee.denominator + amountIn * m),
        ⟨w.pool.after (List.replicate 3 .borrow ++ List.replicate 3 .drop), w.held⟩) := by
  let one := w.push (Move.borrow.on w.pool) (own .withFee) (amountIn * m)
  let two := one.push (Move.borrow.on one.pool) (own .below)
  let three := (two (reserveIn * Fee.denominator + amountIn * m)).push
    (Move.borrow.on (Move.borrow.on one.pool)) (own .above) (amountIn * m * reserveOut)
  have hwithFee : own .withFee ∉ w.names := hfree .withFee nofun
  have hbelow : own .below ∉ one.names := by simp [one, hinj.eq_iff, hfree]
  have habove : ∀ n, own .above ∉ (two n).names := by simp [one, two, hinj.eq_iff, hfree]
  have withFee : ∀ n, (two n).value? (own .withFee) = some (amountIn * m) := by
    simp [one, two, Workspace.value?_push, hinj.eq_iff]
  have below : three.value? (own .below) = some (reserveIn * Fee.denominator + amountIn * m) := by
    simp [two, three, Workspace.value?_push, hinj.eq_iff]
  have above : three.value? (own .above) = some (amountIn * m * reserveOut) := by
    simp [three, Workspace.value?_push]
  refine (run_bind_of (fill_run hwithFee amountIn)).trans ?_
  refine (run_bind_of (multiply_run hwithFee _ amountIn m)).trans ?_
  refine (run_bind_of (fill_run hbelow reserveIn)).trans ?_
  refine (run_bind_of (multiply_run hbelow _ reserveIn Fee.denominator)).trans ?_
  refine (run_bind_of (look_run (withFee _))).trans ?_
  refine (run_bind_of (add_run hbelow _ _ (amountIn * m))).trans ?_
  refine (run_bind_of (look_run (withFee _))).trans ?_
  refine (run_bind_of (fill_run (habove _) (amountIn * m))).trans ?_
  refine (run_bind_of (multiply_run (habove _) _ _ reserveOut)).trans ?_
  refine (run_bind_of (look_run above)).trans ?_
  refine (run_bind_of (look_run below)).trans ?_
  -- they go in the reverse order
  refine (run_bind_of (letGo_run (habove _) _ _)).trans ?_
  refine (run_bind_of (letGo_run hbelow _ _)).trans ?_
  exact run_bind_of (letGo_run hwithFee _ _)

/-- The integer of the multiplier stands in front. -/
theorem buildInPlace_run (hfree : own .multiplier ∉ w.names) (fee : Fee) :
    (buildInPlace own fee).run w = (fee.multiplier,
      w.push (Move.borrow.on w.pool) (own .multiplier) (0 + fee.multiplier)) := by
  refine (run_bind_of (fill_run hfree 0)).trans ?_
  refine (run_bind_of (add_run hfree _ 0 fee.multiplier)).trans ?_
  refine look_run ?_
  rw [Workspace.value?_push, if_pos rfl, Nat.zero_add]

/-- **The computation in place pays the closed form** and leaves the pool as after the moves of a
computation, with everything held as before. -/
theorem amountInPlace_run (hinj : Function.Injective own) (hfree : ∀ holding, own holding ∉ w.names)
    (amountIn reserveIn reserveOut : Nat) (fee : Fee) :
    (amountInPlace own amountIn reserveIn reserveOut fee).run w =
      (output amountIn reserveIn reserveOut fee, ⟨w.pool.after (computing fee), w.held⟩) := by
  unfold amountInPlace computing demand Fee.isPreset
  cases hready : fee.readyMultiplier? with
  | some ready =>
    obtain rfl := Fee.multiplier_of_ready hready
    refine (run_bind_of rfl).trans ?_
    refine (run_bind_of (paidInPlace_run hinj (fun holding _ => hfree holding) amountIn reserveIn
      reserveOut _)).trans ?_
    -- there is no integer of the multiplier to let go
    exact congrArg (Prod.mk _) (Workspace.letGo_of_none
      (Workspace.value?_eq_none_iff.mpr (hfree .multiplier)))
  | none =>
    have hothers : ∀ holding, holding ≠ .multiplier → own holding ∉
        (w.push (Move.borrow.on w.pool) (own .multiplier) (0 + fee.multiplier)).names := by
      intro holding hne
      simp [hinj.eq_iff, hne, hfree]
    refine (run_bind_of (buildInPlace_run (hfree .multiplier) fee)).trans ?_
    refine (run_bind_of (paidInPlace_run hinj hothers amountIn reserveIn reserveOut _)).trans ?_
    exact run_bind_of (letGo_run (hfree .multiplier) _ _)

end InPlace

/-! ## The amount -/

omit [DecidableEq ι] in
/-- A priced swap pays the closed form and leaves the moves of a computation behind. -/
theorem compute_removed (w : Workspace ι) (amountIn reserveIn reserveOut : Nat) (fee : Fee) :
    w.compute amountIn reserveIn reserveOut fee.removed =
      (.ok (output amountIn reserveIn reserveOut fee), ⟨w.pool.after (computing fee), w.held⟩) := by
  have hfee : Fee.ofRemoved fee.removed = .ok fee := dif_pos fee.removed_lt
  have hpriced : (amountOut amountIn reserveIn reserveOut fee).run w.pool =
      (output amountIn reserveIn reserveOut fee, w.pool.after (computing fee)) :=
    Prod.ext (amountOut_run_fst amountIn reserveIn reserveOut fee w.pool)
      (amountOut_run_snd amountIn reserveIn reserveOut fee w.pool)
  rw [Workspace.compute, hfee]
  dsimp only
  rw [hpriced]

/-- Names for the integers of a computation, of which none is taken. -/
structure FreeNames (w : Workspace ι) where
  name : Holding → ι
  injective : Function.Injective name
  free : ∀ holding, name holding ∉ w.names

/-- **A priced swap is the computation in place**, in what it pays and in what it leaves. -/
theorem compute_eq_amountInPlace {w : Workspace ι} (own : FreeNames w)
    (amountIn reserveIn reserveOut : Nat) (fee : Fee) :
    w.compute amountIn reserveIn reserveOut fee.removed =
      ((amountInPlace own.name amountIn reserveIn reserveOut fee).run w).map .ok id := by
  rw [compute_removed, amountInPlace_run own.injective own.free]
  rfl

/-- What it means that an amount is paid at a workspace, however it is computed. -/
structure Pays (w : Workspace ι) (amountIn reserveIn reserveOut : Nat) (fee : Fee)
    (amount : Nat) : Prop where
  /-- By the computation on the pool. -/
  priced : ((amountOut amountIn reserveIn reserveOut fee).run w.pool).1 = amount
  /-- By the computation in place, which leaves the workspace as the priced swap does. -/
  inPlace : ∀ own : FreeNames w,
    (amountInPlace own.name amountIn reserveIn reserveOut fee).run w =
      (amount, (w.apply (.compute amountIn reserveIn reserveOut fee.removed)).2)
  /-- With the multiplier that is kept ready. -/
  ready : ∀ (own : FreeNames w) (m : Nat), fee.readyMultiplier? = some m →
    ((paidInPlace own.name amountIn reserveIn reserveOut m).run w).1 = amount
  /-- With the multiplier that is built, even where one is kept ready. -/
  built : ∀ own : FreeNames w,
    ((buildInPlace own.name fee >>= paidInPlace own.name amountIn reserveIn reserveOut).run w).1 =
      amount

theorem pays_output (w : Workspace ι) (amountIn reserveIn reserveOut : Nat) (fee : Fee) :
    Pays w amountIn reserveIn reserveOut fee (output amountIn reserveIn reserveOut fee) where
  priced := amountOut_run_fst amountIn reserveIn reserveOut fee w.pool
  inPlace own := by
    change _ = (_, (w.compute amountIn reserveIn reserveOut fee.removed).2)
    rw [compute_eq_amountInPlace own, amountInPlace_run own.injective own.free]
    rfl
  ready own m hready := by
    rw [paidInPlace_run own.injective (fun holding _ => own.free holding),
      Fee.multiplier_of_ready hready]
    rfl
  built own := by
    rw [run_bind_of (buildInPlace_run (own.free .multiplier) fee),
      paidInPlace_run own.injective fun holding hne => ?_]
    · rfl
    · simp [own.injective.eq_iff, own.free, hne]

/-- **Every accepted fee is priced by the closed form**, at every pool and whatever is held there,
and the number that is divided by is positive. -/
theorem pricedExactly (w : Workspace ι) (amountIn : Nat) {reserveIn : Nat} (hin : 0 < reserveIn)
    (reserveOut : Nat) {removed : Nat} {fee : Fee} (hfee : Fee.ofRemoved removed = .ok fee) :
    0 < reserveIn * 1000 + amountIn * (1000 - removed) ∧
      Pays w amountIn reserveIn reserveOut fee (amountIn * (1000 - removed) * reserveOut /
        (reserveIn * 1000 + amountIn * (1000 - removed))) := by
  obtain rfl := Fee.removed_of_ofRemoved hfee
  exact ⟨divisor_pos hin amountIn fee, pays_output w amountIn reserveIn reserveOut fee⟩

/-- A workspace where somebody holds an integer, next to one that was made elsewhere. -/
def busy : Workspace (Unit ⊕ Holding) :=
  (Workspace.new 1).run [.acquire (.inl ()), .set (.inl ()) 7, .release 9 2]

theorem pricedExactly_of_busy :
    busy.value? (.inl ()) = some 7 ∧ busy.pool.available = 1 ∧
      ((amountOut 1000 5000 5000 ⟨25, by decide⟩).run busy.pool).1 = 815 ∧
      ((amountInPlace .inr 1000 5000 5000 ⟨25, by decide⟩).run busy).1 = 815 := by
  have hnames : busy.names = [.inl ()] := rfl
  have hfree : ∀ holding : Holding, .inr holding ∉ busy.names := by simp [hnames]
  let own : FreeNames busy := ⟨.inr, fun _ _ => Sum.inr.inj, hfree⟩
  have hfee : Fee.ofRemoved 25 = .ok ⟨25, by decide⟩ := rfl
  obtain ⟨-, hpays⟩ := pricedExactly busy 1000 (Nat.succ_pos 4999) 5000 hfee
  exact ⟨rfl, rfl, hpays.priced, congrArg Prod.fst (hpays.inPlace own)⟩

end Swap

end PairQuote
