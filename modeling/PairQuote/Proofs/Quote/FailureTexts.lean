import PairQuote.Chain.Table
import PairQuote.Proofs.Entries
import PairQuote.Proofs.Quote.Run

/-! # Quotes up to the texts of failures

Two chains **differ in failure texts** only if they give the same answers to the same calls
after the same calls, except that a call that fails may fail with another text.  Nothing is
said about their states, which may be of different kinds.

A quote asks both chains the same, and what it is told differs at most in the text that comes
with a failure of the chain (`Desk.Alike.quote`).  This text is all that `Refusal.muffled`
takes away from a refusal.
-/
namespace PairQuote

variable {σ σ' : Type} {source : ChainSource σ} {source' : ChainSource σ'} {chain : σ}
  {chain' : σ'}

/-! ## Chains -/

/-- Two chains that nobody can tell apart but by the texts of failed calls. -/
structure DifferInFailureTexts (source : ChainSource σ) (chain : σ) (source' : ChainSource σ')
    (chain' : σ') : Prop where
  latest : ∀ calls : List Call,
    (source.latest (source.replay calls chain)).1.toOption =
      (source'.latest (source'.replay calls chain')).1.toOption
  read : ∀ (calls : List Call) (contract : Address) (slot block : UInt64),
    (source.read contract slot block (source.replay calls chain)).1.toOption =
      (source'.read contract slot block (source'.replay calls chain')).1.toOption

theorem ChainSource.replay_append (source : ChainSource σ) (first second : List Call)
    (chain : σ) :
    source.replay (first ++ second) chain = source.replay second (source.replay first chain) :=
  List.foldl_append

/-- The same calls leave such chains as such chains. -/
theorem DifferInFailureTexts.replay (h : DifferInFailureTexts source chain source' chain')
    (calls : List Call) :
    DifferInFailureTexts source (source.replay calls chain) source'
      (source'.replay calls chain') := by
  constructor
  · intro more
    rw [← source.replay_append, ← source'.replay_append]
    exact h.latest (calls ++ more)
  · intro more contract slot block
    rw [← source.replay_append, ← source'.replay_append]
    exact h.read (calls ++ more) contract slot block

/-- A table with its failures told in other words. -/
def TableChain.retell (f : String → String) (c : TableChain) : TableChain :=
  { c with faults := c.faults.map (Prod.map id f) }

namespace TableChain
variable {f : String → String} {c : TableChain}

theorem lookup_faults_retell (point : FaultPoint) :
    (c.retell f).faults.lookup point = (c.faults.lookup point).map f :=
  Entries.lookup_map_snd f c.faults point

theorem answer_retell {α : Type} (point : FaultPoint) (value : α) :
    ((c.retell f).answer point value).toOption = (c.answer point value).toOption := by
  unfold answer
  rw [lookup_faults_retell]
  cases c.faults.lookup point <;> rfl

/-- The head is told as at any other point of the table. -/
theorem latest_fst (c : TableChain) :
    (TableChain.source.latest c).1 = c.answer .head c.head := by
  unfold TableChain.source
  dsimp only
  cases c.answer .head c.head <;> rfl

theorem after_retell (call : Call) :
    TableChain.source.after (c.retell f) call = (TableChain.source.after c call).retell f := by
  cases call with
  | read contract slot block => rfl
  | latest =>
    unfold ChainSource.after TableChain.source answer
    dsimp only
    rw [lookup_faults_retell]
    cases c.faults.lookup .head <;> rfl

theorem replay_retell (calls : List Call) :
    TableChain.source.replay calls (c.retell f) =
      (TableChain.source.replay calls c).retell f :=
  List.foldl_hom (retell f) fun c => after_retell (c := c)

/-- Failures told in other words are all the difference. -/
theorem differInFailureTexts_retell (f : String → String) (c : TableChain) :
    DifferInFailureTexts TableChain.source c TableChain.source (c.retell f) := by
  constructor
  · intro calls
    rw [replay_retell, latest_fst, latest_fst]
    exact (answer_retell _ _).symm
  · intro calls contract slot block
    rw [replay_retell]
    exact (answer_retell _ _).symm

end TableChain

/-! ## Answers -/

/-- A refusal without the text of a failure of the chain. -/
def Refusal.muffled : Refusal → Refusal
  | .chainUnavailable _ => .chainUnavailable ""
  | e => e

namespace Answers

/-- Two rows of answers that differ in failure texts. -/
structure Alike (a a' : Answers) : Prop where
  head : a.head.toOption = a'.head.toOption
  token0 : a.token0.toOption = a'.token0.toOption
  token1 : a.token1.toOption = a'.token1.toOption
  reserves : a.reserves.toOption = a'.reserves.toOption

/-- Without its text a failure is a failure and no more. -/
theorem map_muffled_failure {α : Type} (answer : Except String α) :
    (failure answer).map Refusal.muffled =
      if answer.toOption.isSome then none else some (.chainUnavailable "") := by
  cases answer <;> rfl

theorem isSome_failure {α : Type} (answer : Except String α) :
    (failure answer).isSome = !answer.toOption.isSome := by
  cases answer <;> rfl

namespace Alike
variable {a a' : Answers} (h : Alike a a') (request : QuoteRequest)
include h

theorem block_eq : a.block = a'.block := by
  rw [Answers.block, Answers.block, h.head]

theorem noToken_iff : a.NoToken ↔ a'.NoToken := by
  simp only [NoToken, part, h.token0, h.token1]

theorem noReserve_iff : a.NoReserve ↔ a'.NoReserve := by
  simp only [NoReserve, part, h.reserves]

theorem token_eq : token a.token0 = token a'.token0 ∧ token a.token1 = token a'.token1 := by
  simp only [token, part, h.token0, h.token1, and_self]

theorem direct_iff : a.Direct request ↔ a'.Direct request := by
  rw [Direct, Direct, h.token_eq.1, h.token_eq.2]

theorem reversed_iff : a.Reversed request ↔ a'.Reversed request := by
  rw [Reversed, Reversed, h.token_eq.1, h.token_eq.2]

/-- The same hindrances are found, but for the texts of failures. -/
theorem hindrances_eq : (a.hindrances request).map (Option.map Refusal.muffled) =
    (a'.hindrances request).map (Option.map Refusal.muffled) := by
  simp only [hindrances, List.map_cons, List.map_nil, map_muffled_failure, h.head, h.token0,
    h.token1, h.reserves, h.block_eq, h.noToken_iff, h.noReserve_iff, h.direct_iff request,
    h.reversed_iff request, h.token_eq.1, h.token_eq.2]

theorem reserveIn_eq : a.reserveIn request = a'.reserveIn request := by
  simp only [reserveIn, part, h.reserves, h.direct_iff request]

theorem reserveOut_eq : a.reserveOut request = a'.reserveOut request := by
  simp only [reserveOut, part, h.reserves, h.direct_iff request]

/-- The first hindrance is the same, but for the text of a failure. -/
theorem first_eq : ((a.hindrances request).findSome? id).map Refusal.muffled =
    ((a'.hindrances request).findSome? id).map Refusal.muffled := by
  have hmap : ∀ l : List (Option Refusal), (l.findSome? id).map Refusal.muffled =
      (l.map (Option.map Refusal.muffled)).findSome? id := by
    intro l
    rw [List.map_findSome?, List.findSome?_map]
    rfl
  rw [hmap, hmap, h.hindrances_eq]

/-- **What the request is told is the same, but for the text of a failure.** -/
theorem outcome_eq : (a.outcome request).mapError Refusal.muffled =
    (a'.outcome request).mapError Refusal.muffled := by
  have hfirst := h.first_eq request
  unfold outcome
  rw [h.reserveIn_eq request, h.reserveOut_eq request]
  cases ha : (a.hindrances request).findSome? id with
  | none =>
    rw [ha] at hfirst
    rw [Option.map_eq_none_iff.mp hfirst.symm]
  | some e =>
    rw [ha] at hfirst
    obtain ⟨e', ha', he⟩ := Option.map_eq_some_iff.mp hfirst.symm
    rw [ha']
    exact congrArg Except.error he.symm

theorem calls_eq (pair : Address) : a.calls pair = a'.calls pair := by
  have hreached : a.reached = a'.reached := by
    simp only [reached, isSome_failure, h.head, h.token0, h.token1, h.noToken_iff]
  rw [calls, calls, hreached, h.block_eq]

/-- The scratch integers are used alike. -/
theorem scratch_eq (p : ScratchPool) : a.scratch request p = a'.scratch request p := by
  have houtcome := h.outcome_eq request
  unfold scratch
  rw [h.reserveIn_eq request, h.reserveOut_eq request]
  cases ha : a.outcome request with
  | ok amount =>
    cases ha' : a'.outcome request with
    | ok amount' => rfl
    | error e' =>
      rw [ha, ha'] at houtcome
      cases houtcome
  | error e =>
    cases ha' : a'.outcome request with
    | ok amount' =>
      rw [ha, ha'] at houtcome
      cases houtcome
    | error e' => rfl

end Alike

end Answers

/-- Chains that differ in failure texts give a quote answers that do. -/
theorem DifferInFailureTexts.answers (h : DifferInFailureTexts source chain source' chain')
    (pair : Address) : (source.answers pair chain).Alike (source'.answers pair chain') := by
  have hhead : (source.answers pair chain).head.toOption =
      (source'.answers pair chain').head.toOption := h.latest []
  -- The block of the reads is the head, which both chains tell or neither does.
  have hblock : (source.latest chain).1.toOption.getD 0 =
      (source'.latest chain').1.toOption.getD 0 := congrArg (·.getD 0) hhead
  unfold ChainSource.answers
  dsimp only
  rw [hblock]
  exact ⟨hhead, h.read _ pair 6 _, h.read _ pair 7 _, h.read _ pair 8 _⟩

/-! ## Desks -/

/-- Two desks that differ in what their chains say about failures, and in nothing else. -/
structure Desk.Alike (source : ChainSource σ) (desk : Desk σ) (source' : ChainSource σ')
    (desk' : Desk σ') : Prop where
  chain : DifferInFailureTexts source desk.observed.chain source' desk'.observed.chain
  calls : desk.observed.calls = desk'.observed.calls
  scratch : desk.scratch = desk'.scratch

/-- **A quote at two such desks** is told the same, but for the text of a failure, makes the
same calls and leaves two such desks. -/
theorem Desk.Alike.quote {desk : Desk σ} {desk' : Desk σ'}
    (h : Desk.Alike source desk source' desk') (request : QuoteRequest) :
    (((PairQuote.quote source request).run desk).1).mapError Refusal.muffled =
        (((PairQuote.quote source' request).run desk').1).mapError Refusal.muffled ∧
      Desk.Alike source ((PairQuote.quote source request).run desk).2 source'
        ((PairQuote.quote source' request).run desk').2 := by
  have halike := h.chain.answers request.pair
  rw [quote_run, quote_run]
  refine ⟨halike.outcome_eq request, ?_⟩
  rw [halike.calls_eq, halike.scratch_eq, h.scratch]
  exact ⟨h.chain.replay _, congrArg (· ++ _) h.calls, rfl⟩

end PairQuote
