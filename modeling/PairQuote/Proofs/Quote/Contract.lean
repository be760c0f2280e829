import PairQuote.Chain.Table
import PairQuote.Proofs.Quote.Run

/-! # Pricing is asked for admissible reserves only

A quote first finds its two **sides**, the reserve of the token given and that of the token
asked for; then it looks once more whether one of them is zero, and prices (`quote_eq`).

Work `Returns` only what has a property if the property holds whenever the work succeeds.
This is passed on from part to part: reading the reserves returns no empty side, ordering
them changes nothing about that, so `Quote.sides` returns admissible sides only
(`Quote.returns_sides`).  The last check therefore never refuses: a quote without it is the
same quote.  What follows from the reserves being admissible is that every price is below
the reserve it is paid from.
-/
namespace PairQuote

/-! ## What work returns -/

/-- Whatever the work returns when it succeeds has a property. -/
def Returns {s α : Type} (P : α → Prop) (work : ExceptT Refusal (StateM s) α) : Prop :=
  ∀ state a state', work.run state = (.ok a, state') → P a

namespace Returns
variable {s α β : Type} {P : α → Prop} {Q : β → Prop} {work : ExceptT Refusal (StateM s) α}
  {next next' : α → ExceptT Refusal (StateM s) β}

theorem trivial (work : ExceptT Refusal (StateM s) α) : Returns (fun _ => True) work :=
  fun _ _ _ _ => True.intro

/-- What follows work returns what it returns after any success of the work. -/
theorem bind (hwork : Returns P work) (hnext : ∀ a, P a → Returns Q (next a)) :
    Returns Q (work >>= next) := by
  intro state b state' hrun
  obtain ⟨⟨result, middle⟩, hfirst⟩ : ∃ run, work.run state = run := ⟨_, rfl⟩
  cases result with
  | error e =>
    rw [run_bind_of_error hfirst] at hrun
    cases hrun
  | ok a =>
    rw [run_bind_of_ok hfirst] at hrun
    exact hnext a (hwork state a middle hfirst) middle b state' hrun

theorem lift {verdict : Except Refusal α} (h : ∀ a, verdict = .ok a → P a) :
    Returns P (liftM verdict : ExceptT Refusal (StateM s) α) := by
  intro state a state' hrun
  exact h a (congrArg Prod.fst hrun)

/-- Two ways to go on that agree on whatever the work returns are the same. -/
theorem run_bind_congr (hwork : Returns P work) {state : s}
    (hnext : ∀ a, P a → ∀ state, (next a).run state = (next' a).run state) :
    (work >>= next).run state = (work >>= next').run state := by
  obtain ⟨⟨result, middle⟩, hfirst⟩ : ∃ run, work.run state = run := ⟨_, rfl⟩
  cases result with
  | error e => rw [run_bind_of_error hfirst, run_bind_of_error hfirst]
  | ok a =>
    rw [run_bind_of_ok hfirst, run_bind_of_ok hfirst]
    exact hnext a (hwork state a middle hfirst) middle

end Returns

variable {σ : Type} {source : ChainSource σ}

theorem Desk.returns_onChain {α : Type} {P : α → Prop} {work : ChainM σ α}
    (h : Returns P work) : Returns P (Desk.onChain work) := by
  intro desk a desk' hrun
  have hresult : (work.run desk.observed).1 = .ok a := congrArg (fun run => run.1) hrun
  exact h desk.observed a (work.run desk.observed).2 (Prod.ext hresult rfl)

/-! ## The sides of a quote -/

/-- Neither of two sides is zero. -/
def NoneEmpty (found : BitVec 112 × BitVec 112) : Prop := found.1 ≠ 0 ∧ found.2 ≠ 0

/-- Reserves that are read have no empty side. -/
theorem Pair.returns_reserves (source : ChainSource σ) (pair : Address) (block : UInt64) :
    Returns (fun r => NoneEmpty (r.reserve0, r.reserve1)) (Pair.reserves source pair block) := by
  intro observed r observed' hrun
  cases hread : (source.read pair 8 block observed.chain).1 with
  | error text =>
    rw [Pair.reserves_run_error hread] at hrun
    cases hrun
  | ok word =>
    rw [Pair.reserves_run hread] at hrun
    split at hrun
    · cases hrun
    · next hsides =>
      obtain rfl : Reserves.ofWord word = r := Except.ok.inj (congrArg Prod.fst hrun)
      rw [← Reserves.reserve0_eq_zero_iff, ← Reserves.reserve1_eq_zero_iff] at hsides
      exact not_or.mp hsides

/-- Ordering passes both sides on. -/
theorem Pair.noneEmpty_of_orient {src dst token0 token1 : Address} {side0 side1 : BitVec 112}
    {found : BitVec 112 × BitVec 112} (hsides : NoneEmpty (side0, side1))
    (h : Pair.orient src dst token0 token1 side0 side1 = .ok found) : NoneEmpty found := by
  unfold Pair.orient at h
  split at h
  · obtain rfl := Except.ok.inj h
    exact hsides
  · split at h
    · obtain rfl := Except.ok.inj h
      exact ⟨hsides.2, hsides.1⟩
    · cases h

namespace Quote
variable (request : QuoteRequest)

/-- What a quote finds out before it prices: the reserve of the token given and that of the
token asked for. -/
def sides (source : ChainSource σ) : DeskM σ (BitVec 112 × BitVec 112) := do
  let block ← Desk.onChain source.latestBlock
  let tokens ← Desk.onChain (Pair.tokens source request.pair block)
  let reserves ← Desk.onChain (Pair.reserves source request.pair block)
  Pair.orient request.src request.dst tokens.1 tokens.2 reserves.reserve0 reserves.reserve1

/-- Prices the request with the sides that were found. -/
def settle (found : BitVec 112 × BitVec 112) : DeskM σ Nat :=
  Desk.onScratch
    (Swap.amountOut request.amountIn found.1.toNat found.2.toNat Fee.percent030)

/-- Looks once more for an empty side, and prices. -/
def recheck (found : BitVec 112 × BitVec 112) : DeskM σ Nat := do
  if found.1 = 0 ∨ found.2 = 0 then throw (.emptySide request.pair)
  settle request found

/-- A quote finds its sides, looks at them once more, and prices. -/
theorem quote_eq (source : ChainSource σ) :
    quote source request = sides request source >>= recheck request := by
  unfold quote sides recheck settle
  simp only [bind_assoc]

/-- **The sides of a quote are never empty.** -/
theorem returns_sides (source : ChainSource σ) : Returns NoneEmpty (sides request source) := by
  refine .bind (.trivial _) fun block _ => ?_
  refine .bind (.trivial _) fun tokens _ => ?_
  refine .bind (Desk.returns_onChain (Pair.returns_reserves source request.pair block)) ?_
  intro reserves hreserves
  exact .lift fun found hfound => Pair.noneEmpty_of_orient hreserves hfound

variable {request}

/-- Sides that are not empty pass the last check. -/
theorem recheck_run {found : BitVec 112 × BitVec 112} (hfound : NoneEmpty found)
    (desk : Desk σ) : (recheck request found).run desk = (settle request found).run desk := by
  have hpass : ¬(found.1 = 0 ∨ found.2 = 0) := not_or.mpr hfound
  unfold recheck
  refine run_check.trans ?_
  rw [if_neg hpass]

/-- The quote is the same without the last check. -/
theorem quote_run_unchecked (source : ChainSource σ) (request : QuoteRequest) (desk : Desk σ) :
    (quote source request).run desk = (sides request source >>= settle request).run desk := by
  rw [quote_eq]
  exact (returns_sides request source).run_bind_congr fun found hfound desk =>
    recheck_run hfound desk

theorem admissible {found : BitVec 112 × BitVec 112} (hfound : NoneEmpty found) :
    Swap.Admissible found.1.toNat found.2.toNat := by
  have hpos : ∀ side : BitVec 112, side ≠ 0 → 0 < side.toNat := by
    intro side hside
    refine Nat.pos_of_ne_zero fun hzero => hside ?_
    exact BitVec.eq_of_toNat_eq hzero
  exact ⟨hpos _ hfound.1, found.1.isLt, hpos _ hfound.2, found.2.isLt⟩

end Quote

/-! ## What a quote is told -/

/-- The text for reserves that are empty at a block goes on where the other ends. -/
theorem Refusal.emptyReserves_ne_emptySide (pair : Address) (block : UInt64) :
    Refusal.emptyReserves pair block ≠ Refusal.emptySide pair := by
  intro h
  have hlength := congrArg String.length (Refusal.insufficientLiquidity.inj h)
  simp only [String.length_append] at hlength
  have hlong : " has empty reserves at block ".length = 29 := by decide
  have hshort : " has empty reserves".length = 19 := by decide
  omega

namespace Answers
variable {request : QuoteRequest} {a : Answers} {amount : Nat}

theorem part_lt (answer : Except String Word) (low width : Nat) :
    part answer low width < 2 ^ width :=
  Nat.mod_lt _ (Nat.two_pow_pos width)

/-- The last check has a refusal of its own, which no quote is told. -/
theorem outcome_ne_emptySide (request : QuoteRequest) (a : Answers) :
    a.outcome request ≠ .error (.emptySide request.pair) := by
  have exit := a.exit request
  generalize a.outcome request = result at exit ⊢
  generalize a.reached = made at exit
  rintro rfl
  generalize htold : Except.error (Refusal.emptySide request.pair) = told at exit
  cases exit with
  | noReserve =>
    exact Refusal.emptyReserves_ne_emptySide _ _ (Except.error.inj htold).symm
  | _ => cases htold

/-- **A price is below the reserve it is paid from.** -/
theorem outcome_lt (h : a.outcome request = .ok amount) :
    amount < a.reserveOut request ∧ a.reserveOut request < 2 ^ 112 := by
  have exit := a.exit request
  rw [h] at exit
  generalize a.reached = made at exit
  cases exit with
  | priced head token0 token1 tokens reserves sides oriented =>
    obtain ⟨hside0, hside1⟩ := not_or.mp sides
    have hbounds : 0 < a.reserveIn request ∧ 0 < a.reserveOut request := by
      unfold reserveIn reserveOut
      split
      · exact ⟨Nat.pos_of_ne_zero hside0, Nat.pos_of_ne_zero hside1⟩
      · exact ⟨Nat.pos_of_ne_zero hside1, Nat.pos_of_ne_zero hside0⟩
    constructor
    · exact Swap.output_lt hbounds.1 hbounds.2 request.amountIn Fee.percent030
    · unfold reserveOut
      split <;> exact part_lt _ _ _

end Answers

/-- How a quote comes to its price. -/
structure PricedSoundly (source : ChainSource σ) (request : QuoteRequest) (desk : Desk σ) :
    Prop where
  /-- A quote finds its sides, looks at them once more, and prices. -/
  parts : quote source request = Quote.sides request source >>= Quote.recheck request
  /-- Whatever comes to be priced is admissible, and is divided by a positive number. -/
  admissible : ∀ found desk', (Quote.sides request source).run desk = (.ok found, desk') →
    Swap.Admissible found.1.toNat found.2.toNat ∧
      0 < found.1.toNat * Fee.denominator + request.amountIn * Fee.percent030.multiplier
  /-- Without the last check the quote is the same. -/
  unchecked : (quote source request).run desk =
    (Quote.sides request source >>= Quote.settle request).run desk
  /-- It is never the last check that refuses. -/
  refused : ((quote source request).run desk).1 ≠ .error (.emptySide request.pair)
  /-- A price is below the reserve of the token paid out, whatever the amount. -/
  paid : ∀ amount, ((quote source request).run desk).1 = .ok amount →
    amount < (source.answers request.pair desk.observed.chain).reserveOut request ∧
      (source.answers request.pair desk.observed.chain).reserveOut request < 2 ^ 112

/-- **Pricing is never asked for anything outside its contract.**  On every chain, at every
desk and for every request, acceptable or not. -/
theorem pricedSoundly (source : ChainSource σ) (request : QuoteRequest) (desk : Desk σ) :
    PricedSoundly source request desk where
  parts := Quote.quote_eq request source
  admissible found desk' hfound := by
    have hadmissible := Quote.admissible (Quote.returns_sides request source _ _ _ hfound)
    exact ⟨hadmissible, Swap.divisor_pos hadmissible.reserveIn_pos _ _⟩
  unchecked := Quote.quote_run_unchecked source request desk
  refused := by
    rw [quote_run]
    exact Answers.outcome_ne_emptySide request _
  paid amount hpaid := by
    rw [quote_run] at hpaid
    exact Answers.outcome_lt hpaid

/-- A pair as full as a word allows. -/
def fullPair : TableChain where
  slots := [((⟨1⟩, 6), .ofNat 2), ((⟨1⟩, 7), .ofNat 3), ((⟨1⟩, 8), ⟨BitVec.allOnes 256⟩)]

/-- A request that nobody checked, for far more than the pair can pay. -/
def hugeRequest : QuoteRequest := ⟨⟨1⟩, ⟨3⟩, ⟨2⟩, 10 ^ 80⟩

/-- It is paid all but one of what the pair has. -/
theorem pricedSoundly_of_huge_request :
    (Quote.sides hugeRequest TableChain.source).run ⟨⟨fullPair, []⟩, .new 4⟩ =
        (.ok (BitVec.allOnes 112, BitVec.allOnes 112),
          ⟨⟨fullPair, script ⟨1⟩ 0⟩, .new 4⟩) ∧
      Swap.Admissible (2 ^ 112 - 1) (2 ^ 112 - 1) ∧
      ((quote TableChain.source hugeRequest).run ⟨⟨fullPair, []⟩, .new 4⟩).1 =
        .ok (2 ^ 112 - 2) ∧
      2 ^ 112 - 2 < (TableChain.source.answers ⟨1⟩ fullPair).reserveOut hugeRequest := by
  have sound := pricedSoundly TableChain.source hugeRequest ⟨⟨fullPair, []⟩, .new 4⟩
  have hfound : (Quote.sides hugeRequest TableChain.source).run ⟨⟨fullPair, []⟩, .new 4⟩ =
      (.ok (BitVec.allOnes 112, BitVec.allOnes 112), ⟨⟨fullPair, script ⟨1⟩ 0⟩, .new 4⟩) := rfl
  have hpaid : ((quote TableChain.source hugeRequest).run ⟨⟨fullPair, []⟩, .new 4⟩).1 =
      .ok (2 ^ 112 - 2) := rfl
  exact ⟨hfound, (sound.admissible _ _ hfound).1, hpaid, (sound.paid _ hpaid).1⟩

end PairQuote
