import PairQuote.Proofs.Pair.Symmetry
import PairQuote.Proofs.Quote.FailureTexts

/-! # Quotes by a pair with its labels exchanged

Of a chain a quote sees words, heads and failures.  Two chains are `Relabelled` at a pair if they
tell the same heads and fail alike, and what is read of the first one is in a **storage** and what
is read of the second one in the same storage with the labels of the pair exchanged: the words of
the slots 6 and 7, and the two halves of the word in slot 8.  Nothing is said about their states.

The answers to a quote then have their labels exchanged (`Relabelled.answers`), and the quote ends
in the same way (`Answers.Relabelled.outcome_eq`): with the same price, or with a refusal that
differs at most in the order in which it names the two tokens of the pair.
-/
namespace PairQuote

variable {σ σ' : Type} {source : ChainSource σ} {source' : ChainSource σ'} {chain : σ}
  {chain' : σ'}

/-! ## Chains -/

/-- The words of all contracts: in each slot, at each block. -/
def Storage : Type := Address → UInt64 → UInt64 → Word

/-- The storage in which a pair has its labels exchanged. -/
def Storage.exchanged (pair : Address) (storage : Storage) : Storage := fun contract slot block =>
  if contract = pair ∧ slot = token0Slot then storage pair token1Slot block
  else if contract = pair ∧ slot = token1Slot then storage pair token0Slot block
  else if contract = pair ∧ slot = reservesSlot then (storage pair reservesSlot block).exchanged
  else storage contract slot block

/-- Two answers to a read: both are the same failure, or each has its word. -/
def Fit (word word' : Word) (answer answer' : Except String Word) : Prop :=
  (∃ text, answer = .error text ∧ answer' = .error text) ∨
    answer = .ok word ∧ answer' = .ok word'

namespace Fit
variable {word word' read : Word} {answer answer' : Except String Word} {text : String}

theorem of_error (h : Fit word word' answer answer') (hanswer : answer = .error text) :
    answer' = .error text := by
  rcases h with ⟨text', rfl, rfl⟩ | ⟨rfl, rfl⟩
  · exact hanswer
  · cases hanswer

theorem of_ok (h : Fit word word' answer answer') (hanswer : answer = .ok read) :
    read = word ∧ answer' = .ok word' := by
  rcases h with ⟨text', rfl, rfl⟩ | ⟨rfl, rfl⟩
  · cases hanswer
  · exact ⟨(Except.ok.inj hanswer).symm, rfl⟩

end Fit

/-- Two chains that differ in the labels of a pair: after the same calls they tell the same head,
fail alike, and hold the words of the storage, one of them with the labels exchanged. -/
structure Relabelled (pair : Address) (storage : Storage) (source : ChainSource σ) (chain : σ)
    (source' : ChainSource σ') (chain' : σ') : Prop where
  latest : ∀ calls : List Call,
    (source'.latest (source'.replay calls chain')).1 = (source.latest (source.replay calls chain)).1
  read : ∀ (calls : List Call) (contract : Address) (slot block : UInt64),
    Fit (storage contract slot block) (storage.exchanged pair contract slot block)
      (source.read contract slot block (source.replay calls chain)).1
      (source'.read contract slot block (source'.replay calls chain')).1

/-! ## Answers -/

namespace Answers

/-- Two rows of answers at one head, for two tokens and the reserves of a pair: in the second row
the labels are exchanged. -/
structure Relabelled (word0 word1 word : Word) (a a' : Answers) : Prop where
  head : a'.head = a.head
  token0 : Fit word0 word1 a.token0 a'.token0
  token1 : Fit word1 word0 a.token1 a'.token1
  reserves : Fit word word.exchanged a.reserves a'.reserves

namespace Relabelled
variable {word0 word1 word : Word} {a a' : Answers} {request : QuoteRequest}
  (h : Relabelled word0 word1 word a a')
include h

section Tokens
variable {read0 read1 : Word} (token0 : a.token0 = .ok read0) (token1 : a.token1 = .ok read1)
include token0 token1

/-- The token with one label is the one that had the other. -/
theorem token_eq : token a'.token0 = token a.token1 ∧ token a'.token1 = token a.token0 := by
  obtain ⟨rfl, token0'⟩ := h.token0.of_ok token0
  obtain ⟨rfl, token1'⟩ := h.token1.of_ok token1
  rw [token0, token1, token0', token1']
  exact ⟨rfl, rfl⟩

theorem noToken_iff : a'.NoToken ↔ a.NoToken := by
  obtain ⟨rfl, token0'⟩ := h.token0.of_ok token0
  obtain ⟨rfl, token1'⟩ := h.token1.of_ok token1
  rw [Answers.noToken_iff token0' token1', Answers.noToken_iff token0 token1]
  exact or_comm

theorem direct_iff : a'.Direct request ↔ a.Reversed request := by
  obtain ⟨hzero, hone⟩ := h.token_eq token0 token1
  rw [Direct, hzero, hone]
  rfl

theorem reversed_iff : a'.Reversed request ↔ a.Direct request := by
  obtain ⟨hzero, hone⟩ := h.token_eq token0 token1
  rw [Reversed, hzero, hone]
  rfl

/-- Different tokens are not in both orders. -/
theorem not_direct_of_reversed (hne : Address.ofWord word0 ≠ Address.ofWord word1)
    (reversed : a.Reversed request) : ¬a.Direct request := by
  obtain ⟨rfl, -⟩ := h.token0.of_ok token0
  obtain ⟨rfl, -⟩ := h.token1.of_ok token1
  rw [← token_of_ok token0, ← token_of_ok token1] at hne
  exact Pair.not_direct_of_reversed hne reversed

end Tokens

section Sides
variable {read : Word} (reserves : a.reserves = .ok read)
include reserves

/-- Each reserve is the one that the other label had. -/
theorem part_eq : part a'.reserves 0 112 = part a.reserves 112 112 ∧
    part a'.reserves 112 112 = part a.reserves 0 112 := by
  obtain ⟨rfl, reserves'⟩ := h.reserves.of_ok reserves
  rw [reserves, reserves']
  exact read.part_exchanged

theorem noReserve_iff : a'.NoReserve ↔ a.NoReserve := by
  obtain ⟨hzero, hone⟩ := h.part_eq reserves
  rw [NoReserve, hzero, hone]
  exact or_comm

end Sides

/-- The sides of a quote keep their parts. -/
theorem sides_eq {read0 read1 read : Word} (token0 : a.token0 = .ok read0)
    (token1 : a.token1 = .ok read1) (reserves : a.reserves = .ok read)
    (hne : Address.ofWord word0 ≠ Address.ofWord word1)
    (oriented : a.Direct request ∨ a.Reversed request) :
    a'.reserveIn request = a.reserveIn request ∧ a'.reserveOut request = a.reserveOut request := by
  obtain ⟨hzero, hone⟩ := h.part_eq reserves
  simp only [reserveIn, reserveOut, h.direct_iff token0 token1, hzero, hone]
  rcases oriented with direct | reversed
  · have notReversed : ¬a.Reversed request := fun reversed =>
      h.not_direct_of_reversed token0 token1 hne reversed direct
    simp only [if_pos direct, if_neg notReversed, and_self]
  · have notDirect := h.not_direct_of_reversed token0 token1 hne reversed
    simp only [if_neg notDirect, if_pos reversed, and_self]

/-- **With the labels of different tokens exchanged a quote ends in the same way.** -/
theorem outcome_eq (hne : ∀ block, a.head = .ok block →
      Address.ofWord word0 ≠ Address.ofWord word1) (request : QuoteRequest) :
    a'.outcome request = (a.outcome request).mapError Refusal.relabelled := by
  have exit := a.exit request
  generalize a.outcome request = result at exit ⊢
  generalize a.reached = made at exit
  -- The second row of answers ends by the same rule as the first.
  cases exit with
  | head head => exact (Exit.head (h.head.trans head)).outcome_eq
  | token0 head token0 =>
    exact (Exit.token0 (h.head.trans head) (h.token0.of_error token0)).outcome_eq
  | token1 head token0 token1 =>
    exact (Exit.token1 (h.head.trans head) (h.token0.of_ok token0).2
      (h.token1.of_error token1)).outcome_eq
  | noToken head token0 token1 empty =>
    exact (Exit.noToken (h.head.trans head) (h.token0.of_ok token0).2 (h.token1.of_ok token1).2
      ((h.noToken_iff token0 token1).mpr empty)).outcome_eq
  | reserves head token0 token1 tokens reserves =>
    exact (Exit.reserves (h.head.trans head) (h.token0.of_ok token0).2 (h.token1.of_ok token1).2
      (mt (h.noToken_iff token0 token1).mp tokens) (h.reserves.of_error reserves)).outcome_eq
  | noReserve head token0 token1 tokens reserves empty =>
    exact (Exit.noReserve (h.head.trans head) (h.token0.of_ok token0).2 (h.token1.of_ok token1).2
      (mt (h.noToken_iff token0 token1).mp tokens) (h.reserves.of_ok reserves).2
      ((h.noReserve_iff reserves).mpr empty)).outcome_eq
  | mismatch head token0 token1 tokens reserves sides direct reversed =>
    have exit' := Exit.mismatch (h.head.trans head) (h.token0.of_ok token0).2
      (h.token1.of_ok token1).2 (mt (h.noToken_iff token0 token1).mp tokens)
      (h.reserves.of_ok reserves).2 (mt (h.noReserve_iff reserves).mp sides)
      (mt (h.direct_iff token0 token1).mp reversed) (mt (h.reversed_iff token0 token1).mp direct)
    rw [exit'.outcome_eq, (h.token_eq token0 token1).1, (h.token_eq token0 token1).2]
    rfl
  | priced head token0 token1 tokens reserves sides oriented =>
    have oriented' : a'.Direct request ∨ a'.Reversed request := by
      rw [h.direct_iff token0 token1, h.reversed_iff token0 token1]
      exact oriented.symm
    have exit' := Exit.priced (h.head.trans head) (h.token0.of_ok token0).2
      (h.token1.of_ok token1).2 (mt (h.noToken_iff token0 token1).mp tokens)
      (h.reserves.of_ok reserves).2 (mt (h.noReserve_iff reserves).mp sides) oriented'
    obtain ⟨hin, hout⟩ := h.sides_eq token0 token1 reserves (hne _ head) oriented
    rw [exit'.outcome_eq, hin, hout]
    rfl

end Relabelled

end Answers

/-- Such chains give a quote answers with the labels exchanged. -/
theorem Relabelled.answers {pair : Address} {storage : Storage}
    (h : Relabelled pair storage source chain source' chain') :
    Answers.Relabelled (storage pair token0Slot (source.answers pair chain).block)
      (storage pair token1Slot (source.answers pair chain).block)
      (storage pair reservesSlot (source.answers pair chain).block)
      (source.answers pair chain) (source'.answers pair chain') := by
  have hhead : (source'.latest chain').1 = (source.latest chain).1 := h.latest []
  have htoken0 : ∀ block, storage.exchanged pair pair token0Slot block =
      storage pair token1Slot block := fun block => if_pos ⟨rfl, rfl⟩
  have htoken1 : ∀ block, storage.exchanged pair pair token1Slot block =
      storage pair token0Slot block := fun block =>
    (if_neg (fun hslot => absurd hslot.2 (by decide))).trans (if_pos ⟨rfl, rfl⟩)
  have hreserves : ∀ block, storage.exchanged pair pair reservesSlot block =
      (storage pair reservesSlot block).exchanged := fun block =>
    (if_neg (fun hslot => absurd hslot.2 (by decide))).trans
      ((if_neg (fun hslot => absurd hslot.2 (by decide))).trans (if_pos ⟨rfl, rfl⟩))
  unfold ChainSource.answers Answers.block
  dsimp only
  rw [hhead]
  refine ⟨rfl, ?_, ?_, ?_⟩
  · rw [← htoken0]
    exact h.read _ pair token0Slot _
  · rw [← htoken1]
    exact h.read _ pair token1Slot _
  · rw [← hreserves]
    exact h.read _ pair reservesSlot _

/-! ## Tables -/

namespace TableChain

/-- The words of a table, which are the same at every block. -/
def storage (c : TableChain) : Storage := fun contract slot _ => c.word contract slot

/-- A table with the labels of a pair exchanged. -/
def exchanged (pair : Address) (c : TableChain) : TableChain :=
  ((c.setSlot pair token0Slot (c.word pair token1Slot)).setSlot pair token1Slot
    (c.word pair token0Slot)).setSlot pair reservesSlot (c.word pair reservesSlot).exchanged

variable {c : TableChain} {pair : Address}

theorem word_setSlot (c : TableChain) (contract place : Address) (slot number : UInt64) (w : Word) :
    (c.setSlot place number w).word contract slot =
      if contract = place ∧ slot = number then w else c.word contract slot := by
  unfold word setSlot
  by_cases h : contract = place ∧ slot = number
  · rw [if_pos h, h.1, h.2, List.lookup_cons_self]
    rfl
  · have hne : (contract, slot) ≠ (place, number) := fun heq => h (Prod.mk.inj heq)
    rw [if_neg h, List.lookup_cons, beq_false_of_ne hne]

/-- The exchanged table holds the exchanged storage. -/
theorem word_exchanged (contract : Address) (slot block : UInt64) :
    (c.exchanged pair).word contract slot = c.storage.exchanged pair contract slot block := by
  unfold exchanged Storage.exchanged storage
  rw [word_setSlot, word_setSlot, word_setSlot]
  by_cases hpair : contract = pair
  · by_cases htoken0 : slot = token0Slot
    · simp [hpair, htoken0, token0Slot, token1Slot, reservesSlot]
    · by_cases htoken1 : slot = token1Slot
      · simp [hpair, htoken1, token0Slot, token1Slot, reservesSlot]
      · simp [hpair, htoken0, htoken1]
  · simp [hpair]

theorem after_exchanged (c : TableChain) (call : Call) :
    TableChain.source.after (c.exchanged pair) call =
      (TableChain.source.after c call).exchanged pair := by
  have hfaults : (c.exchanged pair).faults = c.faults := rfl
  cases call with
  | read contract slot block => rfl
  | latest =>
    unfold ChainSource.after TableChain.source answer
    dsimp only
    rw [hfaults]
    cases c.faults.lookup .head <;> rfl

theorem slots_after (c : TableChain) (call : Call) :
    (TableChain.source.after c call).slots = c.slots := by
  cases call with
  | read contract slot block => rfl
  | latest =>
    unfold ChainSource.after TableChain.source
    dsimp only
    cases c.answer .head c.head <;> rfl

theorem slots_replay (c : TableChain) (calls : List Call) :
    (TableChain.source.replay calls c).slots = c.slots := by
  induction calls generalizing c with
  | nil => rfl
  | cons call calls ih => exact (ih _).trans (slots_after c call)

/-- No call changes a word of the table. -/
theorem storage_replay (c : TableChain) (calls : List Call) :
    (TableChain.source.replay calls c).storage = c.storage := by
  unfold storage word
  rw [slots_replay]

/-- A point fails alike in two tables with the same failures. -/
theorem fit_answer (c : TableChain) (point : FaultPoint) (word word' : Word) :
    Fit word word' (c.answer point word) ((c.exchanged pair).answer point word') := by
  have hfaults : (c.exchanged pair).faults = c.faults := rfl
  unfold answer
  rw [hfaults]
  cases c.faults.lookup point with
  | none => exact .inr ⟨rfl, rfl⟩
  | some text => exact .inl ⟨text, rfl, rfl⟩

theorem relabelled_exchanged (pair : Address) (c : TableChain) :
    Relabelled pair c.storage TableChain.source c TableChain.source (c.exchanged pair) := by
  have hreplay : ∀ calls, TableChain.source.replay calls (c.exchanged pair) =
      (TableChain.source.replay calls c).exchanged pair := fun calls =>
    List.foldl_hom (exchanged pair) fun c call => after_exchanged c call
  constructor
  · intro calls
    rw [hreplay, latest_fst, latest_fst]
    rfl
  · intro calls contract slot block
    rw [hreplay, ← storage_replay c calls, ← word_exchanged]
    exact fit_answer _ _ _ _

end TableChain

/-! ## Quotes -/

/-- **Which token is the first makes no difference.**  Ordering treats both directions and both
labels evenly; and by a pair of two different tokens every request is told the same with the
labels exchanged in storage, but for the order in which a refusal names the tokens. -/
theorem quote_evenly :
    (∀ (α : Type) (src dst token0 token1 : Address) (side0 side1 : α),
      Pair.OrientsEvenly src dst token0 token1 side0 side1) ∧
    ∀ (σ σ' : Type) (source : ChainSource σ) (source' : ChainSource σ') (desk : Desk σ)
      (desk' : Desk σ') (request : QuoteRequest) (storage : Storage),
      Relabelled request.pair storage source desk.observed.chain source' desk'.observed.chain →
      (∀ block, (source.latest desk.observed.chain).1 = .ok block →
        Address.ofWord (storage request.pair token0Slot block) ≠
          Address.ofWord (storage request.pair token1Slot block)) →
      ((quote source' request).run desk').1 =
          (((quote source request).run desk).1).mapError Refusal.relabelled ∧
        (((quote source' request).run desk').1).mapError Refusal.code =
          (((quote source request).run desk).1).mapError Refusal.code := by
  refine ⟨fun α => Pair.orientsEvenly, ?_⟩
  intro σ σ' source source' desk desk' request storage hexchanged hdifferent
  have htold : ((quote source' request).run desk').1 =
      (((quote source request).run desk).1).mapError Refusal.relabelled := by
    rw [quote_run, quote_run]
    refine hexchanged.answers.outcome_eq (fun block head => ?_) request
    rw [Answers.block_of_head head]
    exact hdifferent block head
  refine ⟨htold, ?_⟩
  rw [htold]
  cases ((quote source request).run desk).1 with
  | ok amount => rfl
  | error e => exact congrArg Except.error e.code_relabelled

/-- A pair with more of its first token than of its second. -/
def lopsidedPair : TableChain where
  head := 5
  slots := [((⟨1⟩, 6), .ofNat 2), ((⟨1⟩, 7), .ofNat 3),
    ((⟨1⟩, 8), .ofNat (7 * 2 ^ 224 + 2000000 * 2 ^ 112 + 5000000))]

/-- With the labels exchanged the first token is paid for as before, and a token that is not of
the pair is refused with the other order of the two that are. -/
theorem quote_evenly_of_lopsided_pair :
    Relabelled ⟨1⟩ lopsidedPair.storage TableChain.source lopsidedPair TableChain.source
        (lopsidedPair.exchanged ⟨1⟩) ∧
      Address.ofWord (lopsidedPair.storage ⟨1⟩ token0Slot 5) ≠
        Address.ofWord (lopsidedPair.storage ⟨1⟩ token1Slot 5) ∧
      ((quote TableChain.source ⟨⟨1⟩, ⟨2⟩, ⟨3⟩, 1000⟩).run
        ⟨⟨lopsidedPair.exchanged ⟨1⟩, []⟩, .new 4⟩).1 = .ok 398 ∧
      ((quote TableChain.source ⟨⟨1⟩, ⟨2⟩, ⟨4⟩, 1000⟩).run
        ⟨⟨lopsidedPair.exchanged ⟨1⟩, []⟩, .new 4⟩).1 =
          .error (.tokenMismatch ⟨2⟩ ⟨4⟩ ⟨3⟩ ⟨2⟩) := by
  have hexchanged := TableChain.relabelled_exchanged ⟨1⟩ lopsidedPair
  have hdifferent : Address.ofWord (lopsidedPair.storage ⟨1⟩ token0Slot 5) ≠
      Address.ofWord (lopsidedPair.storage ⟨1⟩ token1Slot 5) := by decide
  have htold := fun src dst amountIn => (quote_evenly.2 _ _ TableChain.source TableChain.source
    ⟨⟨lopsidedPair, []⟩, .new 4⟩ ⟨⟨lopsidedPair.exchanged ⟨1⟩, []⟩, .new 4⟩
    ⟨⟨1⟩, src, dst, amountIn⟩ lopsidedPair.storage hexchanged fun _ _ => hdifferent).1
  exact ⟨hexchanged, hdifferent, htold ⟨2⟩ ⟨3⟩ 1000, htold ⟨2⟩ ⟨4⟩ 1000⟩

end PairQuote
