import PairQuote.Proofs.Quote.Run

/-! # The calls of a quote

All four calls of a quote are fixed by the first answer: the script at the block that was
answered for the head.  A quote makes the first few of them — how few, and why, says
`Answers.Coherent` — and nothing else: the chain it leaves behind is the chain replayed
through these calls.
-/
namespace PairQuote

namespace Answers

/-- Which of the four calls fail. -/
def failed (a : Answers) : List Bool :=
  [(failure a.head).isSome, (failure a.token0).isSome, (failure a.token1).isSome,
    (failure a.reserves).isSome]

/-- The calls `made` for a request that is told `result`. -/
structure Coherent (pair : Address) (a : Answers) (result : Except Refusal Nat)
    (made : List Call) : Prop where
  /-- The calls are the first ones of the script, at the block answered for the head. -/
  begins : made <+: script pair a.block
  asked : made ≠ []
  /-- No slot is read unless the head was answered. -/
  head : 1 < made.length → a.head = .ok a.block
  /-- No call follows one that failed. -/
  followed : ∀ n, n + 1 < made.length → a.failed[n]? = some false
  /-- The calls stop early only with one that failed, or at slot 7 for want of a token. -/
  stops : made.length < 4 → a.failed[made.length - 1]? = some true ∨
    made.length = 3 ∧ a.failed[2]? = some false ∧ a.NoToken
  /-- The chain is blamed exactly when the last call failed. -/
  blamed : (∃ text, result = .error (.chainUnavailable text)) ↔
    a.failed[made.length - 1]? = some true
  /-- Every other outcome but the missing pair has all four calls. -/
  full : (∀ text, result ≠ .error (.chainUnavailable text)) →
    (∀ what, result ≠ .error (.noSuchPair what)) → made = script pair a.block
  /-- A missing pair is told after the first three calls, all of which were answered. -/
  missing : (∃ what, result = .error (.noSuchPair what)) ↔
    made = [.latest, .read pair 6 a.block, .read pair 7 a.block] ∧ a.failed[2]? = some false
  /-- A price mixes no two blocks: the head was answered once and all reads are at it. -/
  priced : ∀ amount, result = .ok amount → ∃ block, a.head = .ok block ∧
    made = [.latest, .read pair 6 block, .read pair 7 block, .read pair 8 block]

namespace Exit
variable {request : QuoteRequest} {a : Answers} {result : Except Refusal Nat} {made : Nat}

theorem made_pos (exit : Exit request a result made) : 0 < made := by
  cases exit <;> decide

theorem made_le (exit : Exit request a result made) : made ≤ 4 := by
  cases exit <;> decide

theorem head_ok (exit : Exit request a result made) (h : 1 < made) : a.head = .ok a.block := by
  cases exit with
  | head => exact absurd h (Nat.lt_irrefl 1)
  | _ head => rw [block_of_head head, head]

theorem followed (exit : Exit request a result made) :
    ∀ n, n + 1 < made → a.failed[n]? = some false := by
  intro n hn
  have hle := exit.made_le
  have hcases : n = 0 ∨ n = 1 ∨ n = 2 := by omega
  cases exit <;> rcases hcases with rfl | rfl | rfl <;> simp_all [failed, failure]

theorem stops (exit : Exit request a result made) (h : made < 4) :
    a.failed[made - 1]? = some true ∨
      made = 3 ∧ a.failed[2]? = some false ∧ a.NoToken := by
  cases exit with
  | head head => exact .inl (by simp [failed, failure, head])
  | token0 _ token0 => exact .inl (by simp [failed, failure, token0])
  | token1 _ _ token1 => exact .inl (by simp [failed, failure, token1])
  | noToken _ _ token1 empty => exact .inr ⟨rfl, by simp [failed, failure, token1], empty⟩
  | _ => exact absurd h (Nat.lt_irrefl 4)

theorem blamed (exit : Exit request a result made) :
    (∃ text, result = .error (.chainUnavailable text)) ↔ a.failed[made - 1]? = some true := by
  cases exit <;> simp_all [failed, failure, Refusal.noPair, Refusal.emptyReserves]

theorem full (exit : Exit request a result made)
    (chain : ∀ text, result ≠ .error (.chainUnavailable text))
    (missing : ∀ what, result ≠ .error (.noSuchPair what)) : made = 4 := by
  cases exit with
  | head => exact absurd rfl (chain _)
  | token0 => exact absurd rfl (chain _)
  | token1 => exact absurd rfl (chain _)
  | noToken => exact absurd rfl (missing _)
  | _ => rfl

theorem missing (exit : Exit request a result made) :
    (∃ what, result = .error (.noSuchPair what)) ↔ made = 3 ∧ a.failed[2]? = some false := by
  cases exit <;> simp_all [failed, failure, Refusal.noPair, Refusal.emptyReserves]

end Exit

theorem length_calls (request : QuoteRequest) (a : Answers) :
    (a.calls request.pair).length = a.reached := by
  rw [calls, List.length_take]
  exact Nat.min_eq_left (a.exit request).made_le

/-- **The calls of a quote are coherent** with what it is told. -/
theorem coherent (request : QuoteRequest) (a : Answers) :
    Coherent request.pair a (a.outcome request) (a.calls request.pair) := by
  have exit := a.exit request
  have hlen := a.length_calls request
  have full : (∀ text, a.outcome request ≠ .error (.chainUnavailable text)) →
      (∀ what, a.outcome request ≠ .error (.noSuchPair what)) →
      a.calls request.pair = script request.pair a.block := by
    intro chain missing
    rw [calls, exit.full chain missing]
    rfl
  have three : a.reached = 3 ↔ a.calls request.pair =
      [.latest, .read request.pair 6 a.block, .read request.pair 7 a.block] := by
    constructor
    · intro h
      rw [calls, h]
      rfl
    · intro h
      rw [← hlen, h]
      rfl
  refine ⟨List.take_prefix _ _, ?_, ?_, ?_, ?_, ?_, full, ?_, ?_⟩
  · exact List.ne_nil_of_length_pos (hlen ▸ exit.made_pos)
  · exact fun h => exit.head_ok (hlen ▸ h)
  · exact fun n h => exit.followed n (hlen ▸ h)
  · rw [hlen]
    exact exit.stops
  · rw [hlen]
    exact exit.blamed
  · rw [exit.missing, three]
  · intro amount h
    have hcalls := full (by simp [h]) (by simp [h])
    exact ⟨a.block, exit.head_ok (by rw [← hlen, hcalls, length_script]; decide), hcalls⟩

end Answers

end PairQuote
