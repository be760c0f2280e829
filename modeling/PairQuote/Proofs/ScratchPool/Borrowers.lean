import Mathlib.Data.List.Induction
import PairQuote.Proofs.Entries
import PairQuote.Proofs.ScratchPool.Steps
import PairQuote.Proofs.Swap.Pricing

/-! # What borrowers see

A borrower sees the integer it holds, and nothing of what else goes on at the pool.
`value?_apply` says so for one step: a step changes the value under the name it is taken
for, in a way that depends on that value alone (`Step.effect`), and no other value.  That a
new integer is zero is all that is needed of the pool, and every pool is clean.

So a value is what its own steps made of a zero since it was borrowed
(`value?_eq_some_iff`), and whoever takes some of the steps of a run, with names of their
own, sees what they would see alone (`SameFor.trace_filter`).
-/
namespace PairQuote.ScratchPool

variable {ι : Type} [DecidableEq ι]

namespace Step

/-- What a step makes of the number that its borrower's integer holds. -/
def change : Step ι → Nat → Nat
  | .set _ value, _ => value
  | .add _ value, n => n + value
  | .multiply _ value, n => n * value
  | _, n => n

/-- What a step makes of what its borrower holds. -/
def effect : Step ι → Option Nat → Option Nat
  | .acquire _, _ => some 0
  | .letGo _, _ => none
  | step, held => held.map step.change

omit [DecidableEq ι] in
/-- Only borrowing and letting go are more than a change of the number. -/
theorem effect_eq_map {step : Step ι} {id : ι} {held : Option Nat}
    (hown : step.borrower? = some id) (hacquire : step ≠ .acquire id)
    (hletGo : step ≠ .letGo id) : step.effect held = held.map step.change := by
  cases step with
  | acquire name =>
    cases hown
    exact absurd rfl hacquire
  | letGo name =>
    cases hown
    exact absurd rfl hletGo
  | set | add | multiply | get | release | compute => rfl

end Step

/-- What the own steps of a borrower, among others, make of a number in turn. -/
def worked (id : ι) (steps : List (Step ι)) (n : Nat) : Nat :=
  (steps.filter (·.borrower? = some id)).foldl (fun n step => step.change n) n

theorem worked_cons_own {id : ι} {step : Step ι} (h : step.borrower? = some id)
    (steps : List (Step ι)) (n : Nat) :
    worked id (step :: steps) n = worked id steps (step.change n) := by
  unfold worked
  rw [List.filter_cons_of_pos (by simpa using h), List.foldl_cons]

theorem worked_cons_other {id : ι} {step : Step ι} (h : step.borrower? ≠ some id)
    (steps : List (Step ι)) : worked id (step :: steps) = worked id steps := by
  unfold worked
  rw [List.filter_cons_of_neg (by simpa using h)]

namespace Workspace
variable {w w' : Workspace ι} {id : ι}

/-! ## One step -/

theorem lookup_others (w : Workspace ι) (id other : ι) :
    (w.others other).lookup id = if other = id then none else w.value? id :=
  Entries.lookup_filter_ne other id w.held

theorem value?_update (w : Workspace ι) (id other : ι) (f : Nat → Nat) :
    (w.update other f).value? id = if other = id then (w.value? id).map f else w.value? id := by
  unfold update value?
  dsimp only
  induction w.held with
  | nil => split <;> rfl
  | cons entry held ih =>
    obtain ⟨name, n⟩ := entry
    have hentry : (if name = other then (name, f n) else (name, n)) =
        (name, if name = other then f n else n) := by split <;> rfl
    rw [List.map_cons, Entries.lookup_cons_if, ih]
    simp only [hentry]
    rw [Entries.lookup_cons_if]
    by_cases hid : name = id
    · subst hid
      by_cases hother : other = name
      · subst hother
        simp
      · simp [hother, Ne.symm hother]
    · rw [if_neg hid, if_neg hid]

/-- **A step has an effect on its borrower's value and on no other.** -/
theorem value?_apply (clean : Clean w.pool) (step : Step ι) (id : ι) :
    (w.apply step).2.value? id =
      if step.borrower? = some id then step.effect (w.value? id) else w.value? id := by
  have hsome : ∀ name : ι, (some name = some id) = (name = id) :=
    fun name => propext Option.some_inj
  cases step with
  | acquire name =>
    change (w.acquire name).held.lookup id = _
    -- what the name held before is not among the others any more
    rw [held_acquire, Entries.lookup_cons_if, lookup_others, clean.acquire_eq_zero]
    simp only [Step.borrower?, Step.effect, hsome]
    by_cases hname : name = id <;> simp [hname]
  | letGo name =>
    change (w.letGo name).held.lookup id = _
    rw [held_letGo, lookup_others]
    simp only [Step.borrower?, Step.effect, hsome]
  | set name value | add name value | multiply name value =>
    refine (value?_update w id name _).trans ?_
    simp only [Step.borrower?, Step.effect, hsome]
    rfl
  | get name =>
    have heffect : (Step.get name).effect (w.value? id) = w.value? id := Option.map_id'
    exact (ite_eq_right_iff.mpr fun _ => heffect).symm
  | release value count => exact (if_neg nofun).symm
  | compute amountIn reserveIn reserveOut feeRemoved =>
    refine Eq.trans ?_ (if_neg nofun).symm
    exact congrArg (List.lookup id) (compute_held w amountIn reserveIn reserveOut feeRemoved)

theorem value?_apply_own (clean : Clean w.pool) {step : Step ι} (h : step.borrower? = some id) :
    (w.apply step).2.value? id = step.effect (w.value? id) :=
  (value?_apply clean step id).trans (if_pos h)

theorem value?_apply_other (clean : Clean w.pool) {step : Step ι} (h : step.borrower? ≠ some id) :
    (w.apply step).2.value? id = w.value? id :=
  (value?_apply clean step id).trans (if_neg h)

theorem clean_apply (clean : Clean w.pool) (step : Step ι) : Clean (w.apply step).2.pool := by
  rw [apply_pool]
  exact clean.after _

omit [DecidableEq ι] in
/-- A priced swap pays the closed form, on every pool. -/
theorem compute_fst (w : Workspace ι) (amountIn reserveIn reserveOut feeRemoved : Nat) :
    (w.compute amountIn reserveIn reserveOut feeRemoved).1 =
      (Fee.ofRemoved feeRemoved).map (Swap.output amountIn reserveIn reserveOut) := by
  unfold compute
  cases Fee.ofRemoved feeRemoved with
  | error e => rfl
  | ok fee =>
    have hamount := Swap.amountOut_run_fst amountIn reserveIn reserveOut fee w.pool
    dsimp only
    generalize (Swap.amountOut amountIn reserveIn reserveOut fee).run w.pool = priced at hamount ⊢
    exact congrArg Except.ok hamount

/-- What a step pays does not depend on the workspace. -/
theorem result_apply (w w' : Workspace ι) (step : Step ι) :
    (w.apply step).1 = (w'.apply step).1 := by
  cases step with
  | acquire | set | add | multiply | get | letGo | release => rfl
  | compute amountIn reserveIn reserveOut feeRemoved =>
    change some (w.compute amountIn reserveIn reserveOut feeRemoved).1 =
      some (w'.compute amountIn reserveIn reserveOut feeRemoved).1
    rw [compute_fst, compute_fst]

/-! ## A value since it was borrowed -/

/-- While an integer is neither borrowed anew nor let go, its own steps work on it. -/
theorem value?_run (clean : Clean w.pool) {steps : List (Step ι)}
    (hacquire : .acquire id ∉ steps) (hletGo : .letGo id ∉ steps) :
    (w.run steps).value? id = (w.value? id).map (worked id steps) := by
  induction steps generalizing w with
  | nil => exact Option.map_id'.symm
  | cons step steps ih =>
    rw [List.mem_cons, not_or] at hacquire hletGo
    rw [run_cons, ih (clean_apply clean step) hacquire.2 hletGo.2]
    by_cases hown : step.borrower? = some id
    · rw [value?_apply_own clean hown,
        Step.effect_eq_map hown (Ne.symm hacquire.1) (Ne.symm hletGo.1), Option.map_map]
      exact congrArg (Option.map · _) (funext fun n => (worked_cons_own hown steps n).symm)
    · rw [value?_apply_other clean hown, worked_cons_other hown]

/-- Whatever is held was borrowed in the run, and not let go since. -/
theorem exists_acquire_of_held {capacity : Nat} (steps : List (Step ι))
    (hheld : ((new capacity).run steps).value? id ≠ none) :
    ∃ before since, steps = before ++ .acquire id :: since ∧
      .acquire id ∉ since ∧ .letGo id ∉ since := by
  -- The last step is the borrowing, or the integer was held before it.
  induction steps using List.reverseRecOn with
  | nil => exact absurd rfl hheld
  | append_singleton steps step ih =>
    by_cases hacquire : step = .acquire id
    · rw [hacquire]
      exact ⟨steps, [], rfl, List.not_mem_nil, List.not_mem_nil⟩
    · rw [run_append, run_cons, run_nil, value?_apply (clean_run steps)] at hheld
      have hletGo : step ≠ .letGo id := by
        rintro rfl
        exact hheld (if_pos rfl)
      have hbefore : ((new capacity).run steps).value? id ≠ none := by
        intro hnone
        rw [hnone] at hheld
        refine hheld (ite_eq_right_iff.mpr fun hown => ?_)
        rw [Step.effect_eq_map hown hacquire hletGo, Option.map_none]
      obtain ⟨before, since, rfl, hnoAcquire, hnoLetGo⟩ := ih hbefore
      refine ⟨before, since ++ [step], by simp, ?_, ?_⟩
      · simpa [hnoAcquire] using Ne.symm hacquire
      · simpa [hnoLetGo] using Ne.symm hletGo

/-- What an integer holds that is kept after it was borrowed. -/
theorem value?_run_acquire {capacity : Nat} (before : List (Step ι)) {since : List (Step ι)}
    (hacquire : .acquire id ∉ since) (hletGo : .letGo id ∉ since) :
    ((new capacity).run (before ++ .acquire id :: since)).value? id =
      some (worked id since 0) := by
  have hclean : Clean ((new capacity).run before).pool := clean_run before
  rw [run_append, run_cons, value?_run (clean_apply hclean _) hacquire hletGo,
    value?_apply_own hclean rfl]
  rfl

/-- **A borrower holds what its own steps made of zero since it last borrowed.** -/
theorem value?_eq_some_iff {capacity : Nat} {steps : List (Step ι)} {value : Nat} :
    ((new capacity).run steps).value? id = some value ↔
      ∃ before since, steps = before ++ .acquire id :: since ∧ .acquire id ∉ since ∧
        .letGo id ∉ since ∧ value = worked id since 0 := by
  constructor
  · intro hvalue
    obtain ⟨before, since, rfl, hacquire, hletGo⟩ :=
      exists_acquire_of_held steps (by rw [hvalue]; exact Option.some_ne_none value)
    rw [value?_run_acquire before hacquire hletGo] at hvalue
    exact ⟨before, since, rfl, hacquire, hletGo, (Option.some_inj.mp hvalue).symm⟩
  · rintro ⟨before, since, rfl, hacquire, hletGo, rfl⟩
    exact value?_run_acquire before hacquire hletGo

/-! ## Several borrowers -/

/-- What a step shows to whoever takes it. -/
structure Shown where
  /-- What its name holds afterwards. -/
  value : Option Nat
  /-- What a priced swap pays. -/
  result : Option (Except Refusal Nat)

/-- What a step shows at a workspace. -/
def shown (w : Workspace ι) (step : Step ι) : Shown :=
  ⟨step.borrower?.bind (w.apply step).2.value?, (w.apply step).1⟩

variable {β : Type} {owner : ι → β} {who : β}

/-- What steps show in turn, to those who take them. -/
def trace (w : Workspace ι) : List (β × Step ι) → List (β × Shown)
  | [] => []
  | (who, step) :: turns => (who, w.shown step) :: trace (w.apply step).2 turns

/-- A step for a name is taken by the owner of the name. -/
def Owned (owner : ι → β) (turn : β × Step ι) : Prop :=
  ∀ id, turn.2.borrower? = some id → turn.1 = owner id

/-- Two workspaces that somebody cannot tell apart by the names it owns. -/
structure SameFor (owner : ι → β) (who : β) (w w' : Workspace ι) : Prop where
  clean_left : Clean w.pool
  clean_right : Clean w'.pool
  value? : ∀ id, owner id = who → w.value? id = w'.value? id

namespace SameFor

theorem new (owner : ι → β) (who : β) (capacity fresh : Nat) :
    SameFor owner who (new capacity) (new fresh) :=
  ⟨Clean.new capacity, Clean.new fresh, fun _ _ => rfl⟩

theorem apply (h : SameFor owner who w w') (step : Step ι) :
    SameFor owner who (w.apply step).2 (w'.apply step).2 where
  clean_left := clean_apply h.clean_left step
  clean_right := clean_apply h.clean_right step
  value? id hid := by
    rw [value?_apply h.clean_left, value?_apply h.clean_right, h.value? id hid]

/-- The steps of others are not seen. -/
theorem apply_other (h : SameFor owner who w w') {other : β} {step : Step ι}
    (howned : Owned owner (other, step)) (hother : other ≠ who) :
    SameFor owner who (w.apply step).2 w' where
  clean_left := clean_apply h.clean_left step
  clean_right := h.clean_right
  value? id hid := by
    have hnot : step.borrower? ≠ some id := fun hown => hother ((howned id hown).trans hid)
    rw [value?_apply_other h.clean_left hnot, h.value? id hid]

theorem shown_eq (h : SameFor owner who w w') {step : Step ι} (howned : Owned owner (who, step)) :
    w.shown step = w'.shown step := by
  have hvalue : step.borrower?.bind (w.apply step).2.value? =
      step.borrower?.bind (w'.apply step).2.value? := by
    cases hborrower : step.borrower? with
    | none => rfl
    | some id => exact (h.apply step).value? id (howned id hborrower).symm
  rw [shown, shown, hvalue, result_apply w w']

/-- Somebody who takes its turns among others is shown what it is shown without them. -/
theorem trace_filter [DecidableEq β] (h : SameFor owner who w w') {turns : List (β × Step ι)}
    (howned : ∀ turn ∈ turns, Owned owner turn) :
    (w.trace turns).filter (·.1 = who) = w'.trace (turns.filter (·.1 = who)) := by
  induction turns generalizing w w' with
  | nil => rfl
  | cons turn turns ih =>
    obtain ⟨someone, step⟩ := turn
    obtain ⟨hturn, howned⟩ := List.forall_mem_cons.mp howned
    rw [trace]
    by_cases hwho : someone = who
    · subst hwho
      rw [List.filter_cons_of_pos (by simp), List.filter_cons_of_pos (by simp), trace,
        ih (h.apply step) howned, h.shown_eq hturn]
    · -- a turn of somebody else is taken on the left only
      rw [List.filter_cons_of_neg (by simpa using hwho),
        List.filter_cons_of_neg (by simpa using hwho),
        ih (h.apply_other hturn hwho) howned]

end SameFor

/-! ## Together -/

/-- What a pool owes to those who borrow from it. -/
structure Undisturbed (ι β : Type) [DecidableEq ι] [DecidableEq β] (capacity : Nat) : Prop where
  /-- A name holds what its own steps made of zero since it last borrowed. -/
  value : ∀ (steps : List (Step ι)) (id : ι) (value : Nat),
    ((new capacity).run steps).value? id = some value ↔
      ∃ before since, steps = before ++ .acquire id :: since ∧ .acquire id ∉ since ∧
        .letGo id ∉ since ∧ value = worked id since 0
  /-- No step that is not its own changes what a name holds. -/
  others : ∀ (steps : List (Step ι)) (step : Step ι) (id : ι), step.borrower? ≠ some id →
    ((new capacity).run (steps ++ [step])).value? id = ((new capacity).run steps).value? id
  /-- A swap pays what it pays on a pool that was never used. -/
  priced : ∀ (steps : List (Step ι)) (amountIn reserveIn reserveOut feeRemoved fresh : Nat),
    (((new capacity).run steps).apply (.compute amountIn reserveIn reserveOut feeRemoved)).1 =
      some ((Fee.ofRemoved feeRemoved).map fun fee =>
        ((Swap.amountOut amountIn reserveIn reserveOut fee).run (ScratchPool.new fresh)).1)
  /-- Where everybody keeps to their own names, what each is shown is what they would be
  shown alone at a pool that was never used. -/
  alone : ∀ (owner : ι → β) (turns : List (β × Step ι)) (who : β) (fresh : Nat),
    (∀ turn ∈ turns, Owned owner turn) →
    ((new capacity).trace turns).filter (·.1 = who) =
      (new fresh).trace (turns.filter (·.1 = who))

/-- **Nothing that others do at a pool reaches a borrower.** -/
theorem undisturbed (ι β : Type) [DecidableEq ι] [DecidableEq β] (capacity : Nat) :
    Undisturbed ι β capacity where
  value _ _ _ := value?_eq_some_iff
  others steps step id hother := by
    rw [run_append]
    exact value?_apply_other (clean_run steps) hother
  priced steps amountIn reserveIn reserveOut feeRemoved fresh := by
    change some (compute amountIn reserveIn reserveOut feeRemoved _).1 = _
    simp only [compute_fst, Swap.amountOut_run_fst]
  alone owner turns who fresh howned := (SameFor.new owner who capacity fresh).trace_filter howned

/-- Two borrowers with one name each.  The first borrows anew what it holds
already; the second hands back integers of its own and prices a swap. -/
def twoBorrowers : List (Nat × Step Nat) :=
  [(0, .acquire 0), (1, .acquire 1), (0, .set 0 7), (1, .release 9 2), (0, .acquire 0),
    (1, .multiply 1 5), (0, .add 0 4), (1, .compute 1000 5000 5000 3), (0, .get 0)]

theorem undisturbed_of_two_borrowers :
    (∀ turn ∈ twoBorrowers, Owned (fun name : Nat => name) turn) ∧
      ((new 1).trace twoBorrowers).filter (·.1 = 0) =
        [(0, ⟨some 0, none⟩), (0, ⟨some 7, none⟩), (0, ⟨some 0, none⟩), (0, ⟨some 4, none⟩),
          (0, ⟨some 4, none⟩)] ∧
      ((new 1).run (twoBorrowers.map Prod.snd)).value? 0 = some 4 ∧
      (((new 1).run (twoBorrowers.map Prod.snd)).apply (.compute 1000 5000 5000 3)).1 =
        some (.ok 831) := by
  have howned : ∀ turn ∈ twoBorrowers, Owned (fun name : Nat => name) turn := by
    simp [twoBorrowers, Owned, Step.borrower?]
  refine ⟨howned, ?_, ?_, ?_⟩
  · exact (undisturbed Nat Nat 1).alone (fun name => name) twoBorrowers 0 1 howned
  · refine ((undisturbed Nat Nat 1).value _ 0 4).mpr
      ⟨(twoBorrowers.map Prod.snd).take 4, (twoBorrowers.map Prod.snd).drop 5, rfl, ?_, ?_, rfl⟩
    · simp [twoBorrowers]
    · simp [twoBorrowers]
  · exact ((undisturbed Nat Nat 1).priced _ 1000 5000 5000 3 1).trans rfl

end Workspace

end PairQuote.ScratchPool
