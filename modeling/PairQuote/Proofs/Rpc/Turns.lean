import Mathlib.Algebra.Order.Floor.Div
import Mathlib.Data.Int.CardIntervalMod
import Mathlib.Order.Interval.Finset.Nat
import PairQuote.Proofs.Rpc.Opening
import PairQuote.Proofs.Rpc.Steps

/-! # Providers take turns

Every step is a **use** of a client: of the provider whose turn it is, and with the requests
that the node sees in it.  The uses of a client are its log (`Link.log`), and a client that asked
for the chain when it was opened has that use in front (`Way`).

What a log has to do with the state of the client is an invariant of every step (`Agrees`): a
provider has numbered the requests that the node saw from it, in their order and from one on.
With the count of the turns it gives the law of the whole run (`TakesTurns`), which holds as long
as the count of 64 bits does not start again.
-/
namespace PairQuote.Rpc

/-- A use of a client. -/
structure Use where
  /-- The provider whose turn it is. -/
  provider : Nat
  /-- What the node sees. -/
  requests : List Request

variable {dialect : Dialect}

namespace Link
variable (l : Link (List ScriptedReply))

/-- The use that a step makes of a client. -/
def use (dialect : Dialect) (step : Step) : Use where
  provider := l.client.current
  requests := (l.take (scripted dialect) step).2.seen.drop l.seen.length

/-- The uses that several steps make of a client. -/
def log (dialect : Dialect) (l : Link (List ScriptedReply)) : List Step → List Use
  | [] => []
  | step :: steps => l.use dialect step :: log dialect (l.take (scripted dialect) step).2 steps

theorem requests_use (step : Step) : (l.use dialect step).requests = l.sent step := by
  show (l.take (scripted dialect) step).2.seen.drop l.seen.length = l.sent step
  rw [take_seen, List.drop_left]

theorem length_log (steps : List Step) : (l.log dialect steps).length = steps.length := by
  induction steps generalizing l with
  | nil => rfl
  | cons step steps ih => rw [log, List.length_cons, List.length_cons, ih]

theorem log_concat (steps : List Step) (step : Step) :
    l.log dialect (steps ++ [step]) = l.log dialect steps ++
      [(l.after (scripted dialect) steps).use dialect step] := by
  induction steps generalizing l with
  | nil => rfl
  | cons first steps ih => rw [List.cons_append, log, ih, log, List.cons_append, after_cons]

/-- The use of a step among others is the one it makes after those before it. -/
theorem getElem?_log (steps : List Step) (k : Nat) : (l.log dialect steps)[k]? =
    steps[k]?.map ((l.after (scripted dialect) (steps.take k)).use dialect) := by
  induction steps generalizing l k with
  | nil => rfl
  | cons step steps ih =>
    cases k with
    | zero => rfl
    | succ k =>
      rw [log, List.getElem?_cons_succ, List.getElem?_cons_succ, ih]
      rfl

/-- The node sees the requests of the log, and no others. -/
theorem after_seen (steps : List Step) : (l.after (scripted dialect) steps).seen =
    l.seen ++ (l.log dialect steps).flatMap Use.requests := by
  induction steps generalizing l with
  | nil => rw [after_nil, log, List.flatMap_nil, List.append_nil]
  | cons step steps ih =>
    rw [after_cons, ih, take_seen, log, List.flatMap_cons, requests_use, List.append_assoc]

/-- The node sees the questions of the steps, each in its turn. -/
theorem questions_log (steps : List Step) :
    (l.log dialect steps).map (fun use => use.requests.map fun r => (r.method, r.params)) =
      steps.map fun step => step.question?.toList := by
  induction steps generalizing l with
  | nil => rfl
  | cons step steps ih =>
    have hstep : (l.use dialect step).requests.map (fun r => (r.method, r.params)) =
        step.question?.toList := by
      rw [requests_use]
      cases step <;> rfl
    rw [log, List.map_cons, List.map_cons, hstep, ih]

end Link

/-! ## The numbers of the requests -/

/-- The numbers of the requests that the node sees from a provider. -/
def numbers (log : List Use) (p : Nat) : List UInt64 :=
  ((log.filter fun use => use.provider = p).flatMap Use.requests).map Request.id

theorem numbers_concat_self (log : List Use) (use : Use) :
    numbers (log ++ [use]) use.provider =
      numbers log use.provider ++ use.requests.map Request.id := by
  unfold numbers
  rw [List.filter_append, List.filter_singleton, decide_eq_true rfl, cond_true,
    List.flatMap_append, List.flatMap_singleton, List.map_append]

theorem numbers_concat_other (log : List Use) {use : Use} {p : Nat} (h : use.provider ≠ p) :
    numbers (log ++ [use]) p = numbers log p := by
  unfold numbers
  rw [List.filter_append, List.filter_singleton, decide_eq_false h, cond_false, List.append_nil]

/-- The log of a client agrees with what its providers have counted. -/
structure Agrees (log : List Use) (l : Link (List ScriptedReply)) : Prop where
  issued : ∀ p (h : p < l.client.issued.size),
    l.client.issued[p] = UInt64.ofNat (numbers log p).length
  consecutive : ∀ p,
    numbers log p = (List.range' 1 (numbers log p).length).map UInt64.ofNat

/-- A row of consecutive numbers goes on with the next one. -/
theorem consecutive_concat {ids : List UInt64}
    (h : ids = (List.range' 1 ids.length).map UInt64.ofNat) :
    ids ++ [UInt64.ofNat ids.length + 1] =
      (List.range' 1 (ids ++ [UInt64.ofNat ids.length + 1]).length).map UInt64.ofNat := by
  have hnext : UInt64.ofNat ids.length + 1 = UInt64.ofNat (1 + ids.length) := by
    rw [Nat.add_comm, UInt64.ofNat_add]
    rfl
  rw [List.length_append, List.length_singleton, List.range'_1_concat, List.map_append, ← h,
    List.map_singleton, hnext]

namespace Agrees
variable {log : List Use} {l : Link (List ScriptedReply)}

/-- A step that asks takes the next number of the provider whose turn it is. -/
theorem of_asks (h : Agrees log l) {step : Step} (hasks : step.asks = true) :
    Agrees (log ++ [l.use dialect step]) (l.take (scripted dialect) step).2 := by
  have hprovider : (l.use dialect step).provider = l.client.current := rfl
  have hnumber : (l.use dialect step).requests.map Request.id =
      [UInt64.ofNat (numbers log l.client.current).length + 1] := by
    rw [← h.issued l.client.current l.client.current.isLt, Link.requests_use]
    cases step with
    | provider => cases hasks
    | _ => rfl
  have hself : numbers (log ++ [l.use dialect step]) l.client.current =
      numbers log l.client.current ++
        [UInt64.ofNat (numbers log l.client.current).length + 1] := by
    rw [← hnumber]
    exact numbers_concat_self log (l.use dialect step)
  have hissued : (l.take (scripted dialect) step).2.client.issued =
      l.client.issued.set l.client.current (l.client.issued[l.client.current] + 1) := by
    rw [Link.take_client, if_pos hasks]
    rfl
  constructor
  · intro p hp
    simp only [hissued, Array.getElem_set]
    split
    · next hcurrent =>
      rw [← hcurrent, hself, List.length_append, List.length_singleton, UInt64.ofNat_add,
        ← h.issued l.client.current l.client.current.isLt]
      rfl
    · next hother =>
      rw [numbers_concat_other log (hprovider ▸ hother)]
      exact h.issued p _
  · intro p
    by_cases hcurrent : (l.use dialect step).provider = p
    · obtain rfl := hcurrent
      rw [hprovider, hself]
      exact consecutive_concat (h.consecutive _)
    · rw [numbers_concat_other log hcurrent]
      exact h.consecutive p

/-- A step that asks nothing takes no number. -/
theorem of_silent (h : Agrees log l) {step : Step} (hsilent : step.asks = false) :
    Agrees (log ++ [l.use dialect step]) (l.take (scripted dialect) step).2 := by
  have hnone : (l.use dialect step).requests = [] := by
    rw [Link.requests_use]
    cases step with
    | provider => rfl
    | _ => cases hsilent
  have hsame : ∀ p, numbers (log ++ [l.use dialect step]) p = numbers log p := by
    intro p
    by_cases hcurrent : (l.use dialect step).provider = p
    · obtain rfl := hcurrent
      rw [numbers_concat_self, hnone, List.map_nil, List.append_nil]
    · exact numbers_concat_other log hcurrent
  have hissued : (l.take (scripted dialect) step).2.client.issued = l.client.issued := by
    rw [Link.take_client, hsilent]
    rfl
  constructor
  · intro p hp
    simp only [hissued, hsame]
    exact h.issued p _
  · intro p
    rw [hsame]
    exact h.consecutive p

theorem take (h : Agrees log l) (step : Step) :
    Agrees (log ++ [l.use dialect step]) (l.take (scripted dialect) step).2 := by
  cases hasks : step.asks with
  | true => exact h.of_asks hasks
  | false => exact h.of_silent hasks

theorem after (h : Agrees [] l) (steps : List Step) :
    Agrees (l.log dialect steps) (l.after (scripted dialect) steps) := by
  induction steps using List.reverseRecOn with
  | nil => exact h
  | append_singleton steps step ih =>
    rw [Link.log_concat, Link.after_concat]
    exact ih.take step

/-- As long as there are few of them, the numbers go up from one. -/
theorem toNat_numbers (h : Agrees log l) {p : Nat} (hfew : (numbers log p).length < 2 ^ 64) :
    (numbers log p).map UInt64.toNat = List.range' 1 (numbers log p).length := by
  have hkept : ∀ k ∈ List.range' 1 (numbers log p).length, (UInt64.ofNat k).toNat = k := by
    intro k hk
    obtain ⟨-, hlast⟩ := List.mem_range'_1.mp hk
    have hfits : k < 2 ^ 64 := by omega
    exact UInt64.toNat_ofNat_of_lt' hfits
  calc (numbers log p).map UInt64.toNat
      = ((List.range' 1 (numbers log p).length).map UInt64.ofNat).map UInt64.toNat :=
        congrArg (List.map UInt64.toNat) (h.consecutive p)
    _ = (List.range' 1 (numbers log p).length).map fun k => (UInt64.ofNat k).toNat :=
        List.map_map
    _ = List.range' 1 (numbers log p).length := by
        rw [List.map_congr_left hkept, List.map_id']

end Agrees

/-- A use has one request at most. -/
theorem length_numbers_le (l : Link (List ScriptedReply)) (steps : List Step) (p : Nat) :
    (numbers (l.log dialect steps) p).length ≤ steps.length := by
  induction steps using List.reverseRecOn with
  | nil => exact Nat.le_refl 0
  | append_singleton steps step ih =>
    rw [Link.log_concat, List.length_append, List.length_singleton]
    by_cases hcurrent : ((l.after (scripted dialect) steps).use dialect step).provider = p
    · obtain rfl := hcurrent
      have hone : ((l.after (scripted dialect) steps).use dialect step).requests.length ≤ 1 := by
        rw [Link.requests_use, Link.length_sent]
        split <;> decide
      rw [numbers_concat_self, List.length_append, List.length_map]
      exact Nat.add_le_add ih hone
    · rw [numbers_concat_other _ hcurrent]
      exact Nat.le_add_right_of_le ih

/-! ## Remainders -/

/-- The remainders of a row of numbers are shared out evenly. -/
theorem count_range_mod {n p P : Nat} (hp : p < P) :
    ((List.range n).map (· % P)).count p = n / P + if p < n % P then 1 else 0 := by
  have hcount : ((List.range n).map (· % P)).count p = n.count (· ≡ p [MOD P]) := by
    rw [List.count, List.countP_map, Nat.count]
    refine List.countP_congr fun k _ => ?_
    rw [Function.comp_apply, beq_iff_eq, decide_eq_true_iff, Nat.ModEq, Nat.mod_eq_of_lt hp]
  rw [hcount, Nat.count_modEq_card n (Nat.zero_lt_of_lt hp), Nat.mod_eq_of_lt hp]

/-- A share is the quotient, rounded down or up. -/
theorem share_eq_or {n p P : Nat} (hp : p < P) :
    (n / P + if p < n % P then 1 else 0) = n / P ∨
      (n / P + if p < n % P then 1 else 0) = n ⌈/⌉ P := by
  have hpos : 0 < P := Nat.zero_lt_of_lt hp
  split
  · next hrest =>
    right
    have hn : n = P * (n / P) + n % P := (Nat.div_add_mod n P).symm
    have hsplit : n + P - 1 = (n % P - 1) + P * (n / P + 1) := by
      rw [Nat.mul_add_one]
      omega
    have hbelow : n % P - 1 < P := Nat.lt_of_le_of_lt (Nat.sub_le _ 1) (Nat.mod_lt n hpos)
    rw [Nat.ceilDiv_eq_add_pred_div, hsplit, Nat.add_mul_div_left _ _ hpos,
      Nat.div_eq_of_lt hbelow, Nat.zero_add]
  · exact Or.inl (Nat.add_zero _)

/-- Consecutive numbers, as many as there are remainders, have each remainder once. -/
theorem perm_range'_mod (i P : Nat) : ((List.range' i P).map (· % P)).Perm (List.range P) := by
  have hsame : (Multiset.Ico i (i + P)).map (· % P) = Multiset.range P :=
    Nat.multiset_Ico_map_mod i P
  rw [← Multiset.coe_eq_coe, ← Multiset.map_coe]
  have hrow : Multiset.Ico i (i + P) = (List.range' i P : Multiset Nat) := by
    show ((List.range' i (i + P - i) : List Nat) : Multiset Nat) = _
    rw [Nat.add_sub_cancel_left]
  rw [← hrow, hsame]
  rfl

/-- A stretch of the remainders of a row of numbers. -/
theorem take_drop_range_mod {i n P : Nat} (h : i + P ≤ n) :
    (((List.range n).map (· % P)).drop i).take P = (List.range' i P).map (· % P) := by
  have hstretch : ((List.range n).drop i).take P = List.range' i P := by
    rw [List.range_eq_range', List.drop_range', List.take_range'_of_length_ge (by omega),
      Nat.zero_add, Nat.mul_one]
  rw [← List.map_drop, ← List.map_take, hstretch]

/-! ## Turns -/

/-- The law of the uses of a client of `P` providers, from its first use on. -/
structure TakesTurns (dialect : Dialect) (P : Nat) (l : Link (List ScriptedReply))
    (steps : List Step) : Prop where
  connections : (l.after (scripted dialect) steps).client.connections = P
  /-- Every step is a use. -/
  length : (l.log dialect steps).length = steps.length
  provider : ∀ k use, (l.log dialect steps)[k]? = some use → use.provider = k % P
  inRange : ∀ use ∈ l.log dialect steps, use.provider < P
  /-- A step that takes a provider tells which one. -/
  told : ∀ k, steps[k]? = some Step.provider →
    (l.outcomes (scripted dialect) steps)[k]? = some (Ending.returned (Outcome.provider (k % P)))
  /-- The uses are shared out evenly. -/
  share : ∀ p < P, ((l.log dialect steps).map Use.provider).count p = steps.length / P ∨
    ((l.log dialect steps).map Use.provider).count p = steps.length ⌈/⌉ P
  /-- As many uses in a row as there are providers take each of them once. -/
  window : ∀ i, i + P ≤ steps.length →
    ((((l.log dialect steps).drop i).take P).map Use.provider).Perm (List.range P)
  /-- What the node sees are the questions of the steps, each in its own use. -/
  questions : (l.log dialect steps).map
      (fun use => use.requests.map fun r => (r.method, r.params)) =
    steps.map fun step => step.question?.toList
  seen : (l.after (scripted dialect) steps).seen =
    l.seen ++ (l.log dialect steps).flatMap Use.requests
  /-- The requests of a provider are numbered from one on. -/
  numbered : ∀ p < P, (numbers (l.log dialect steps) p).map UInt64.toNat =
    List.range' 1 (numbers (l.log dialect steps) p).length

/-- A client that nothing was done with yet. -/
structure Unused (P : Nat) (l : Link (List ScriptedReply)) : Prop where
  connections : l.client.connections = P
  turns : l.client.turns = 0
  issued : ∀ p (h : p < l.client.issued.size), l.client.issued[p] = 0

namespace Unused
variable {P : Nat} {l : Link (List ScriptedReply)} (h : Unused P l) {steps : List Step}
include h

theorem agrees : Agrees [] l where
  issued := h.issued
  consecutive _ := rfl

/-- The number of the steps tells whose turn it is after them. -/
theorem after_current (hshort : steps.length < 2 ^ 64) :
    ((l.after (scripted dialect) steps).client.current : Nat) = steps.length % P := by
  show (l.after (scripted dialect) steps).client.turns.toNat %
    (l.after (scripted dialect) steps).client.connections = steps.length % P
  rw [Link.after_turns, Link.after_connections, h.turns, h.connections, UInt64.zero_add,
    UInt64.toNat_ofNat_of_lt' hshort]

/-- Whose turn it is after the first steps of a row. -/
theorem after_take_current (hshort : steps.length < 2 ^ 64) {k : Nat} (hk : k < steps.length) :
    ((l.after (scripted dialect) (steps.take k)).client.current : Nat) = k % P := by
  have hlength : (steps.take k).length = k := by
    rw [List.length_take, Nat.min_eq_left (Nat.le_of_lt hk)]
  rw [h.after_current (hlength.symm ▸ Nat.lt_trans hk hshort), hlength]

theorem providers (hshort : steps.length < 2 ^ 64) :
    (l.log dialect steps).map Use.provider = (List.range steps.length).map (· % P) := by
  refine List.ext_getElem? fun k => ?_
  rw [List.getElem?_map, List.getElem?_map, Link.getElem?_log]
  by_cases hk : k < steps.length
  · rw [List.getElem?_eq_getElem hk, List.getElem?_range hk]
    exact congrArg some (h.after_take_current hshort hk)
  · rw [List.getElem?_eq_none (Nat.le_of_not_lt hk),
      List.getElem?_eq_none (by rw [List.length_range]; exact Nat.le_of_not_lt hk)]
    rfl

theorem provider_at (hshort : steps.length < 2 ^ 64) {k : Nat} {use : Use}
    (huse : (l.log dialect steps)[k]? = some use) : use.provider = k % P := by
  rw [Link.getElem?_log] at huse
  obtain ⟨step, hstep, rfl⟩ := Option.map_eq_some_iff.mp huse
  exact h.after_take_current hshort (List.getElem?_eq_some_iff.mp hstep).1

/-- **The providers of an unused client take turns.** -/
theorem takesTurns (hshort : steps.length < 2 ^ 64) : TakesTurns dialect P l steps := by
  have hproviders : (l.log dialect steps).map Use.provider =
      (List.range steps.length).map (· % P) := h.providers hshort
  constructor
  case connections => rw [Link.after_connections, h.connections]
  case length => exact l.length_log steps
  case provider => exact fun k use huse => h.provider_at hshort huse
  case inRange =>
    intro use huse
    obtain ⟨k, hk⟩ := List.getElem?_of_mem huse
    have hpos : 0 < P := h.connections ▸ l.client.issued_pos
    rw [h.provider_at hshort hk]
    exact Nat.mod_lt k hpos
  case told =>
    intro k hk
    have hcurrent : ((l.after (scripted dialect) (steps.take k)).client.current : Nat) = k % P :=
      h.after_take_current hshort (List.getElem?_eq_some_iff.mp hk).1
    rw [Link.getElem?_outcomes, hk, ← hcurrent]
    rfl
  case share =>
    intro p hp
    rw [hproviders, count_range_mod hp]
    exact share_eq_or hp
  case window =>
    intro i hi
    rw [List.map_take, List.map_drop, hproviders, take_drop_range_mod hi]
    exact perm_range'_mod i P
  case questions => exact l.questions_log steps
  case seen => exact l.after_seen steps
  case numbered =>
    intro p _
    exact (h.agrees.after steps).toNat_numbers
      (Nat.lt_of_le_of_lt (length_numbers_le l steps p) hshort)

end Unused

/-! ## From the opening on -/

/-- A client is set up unused, whatever the number of providers that is asked for. -/
theorem connect_unused {url : String} (hurl : Url.check url = .ok ()) (chainId : UInt64)
    (poolSize timeoutMs : Nat) (replies : List ScriptedReply) : ∃ l : Link (List ScriptedReply),
      connect url chainId poolSize timeoutMs replies = .ok l ∧ l.seen = [] ∧
        Unused (max poolSize 1) l := by
  unfold connect Client.connect
  rw [hurl]
  refine ⟨_, rfl, rfl, ?_, rfl, fun p h => ?_⟩
  · exact Array.size_replicate
  · exact Array.getElem_replicate h

/-- How a client is opened. -/
inductive Way where
  /-- The expected chain is trusted. -/
  | trusting
  /-- The node is asked for its chain. -/
  | asking

/-- What is done with a client to open it. -/
def Way.steps : Way → List Step
  | trusting => []
  | asking => [.chain]

/-- The link that opening a client leaves. -/
def Way.leaves {τ : Type} (transport : Transport τ) (url : String) (chainId : UInt64)
    (poolSize timeoutMs : Nat) (node : τ) : Way → Option (Link τ)
  | trusting => (connect url chainId poolSize timeoutMs node).toOption
  | asking => (openChecked transport url chainId poolSize timeoutMs node).2

/-- Opening a client takes its steps. -/
theorem Way.leaves_of_connect {τ : Type} {transport : Transport τ} {url : String}
    {chainId : UInt64} {poolSize timeoutMs : Nat} {node : τ} {l : Link τ}
    (h : connect url chainId poolSize timeoutMs node = .ok l) (way : Way) :
    way.leaves transport url chainId poolSize timeoutMs node =
      some (l.after transport way.steps) := by
  cases way with
  | trusting =>
    unfold leaves
    dsimp only
    rw [h]
    rfl
  | asking =>
    unfold leaves
    dsimp only
    rw [openChecked_of_connect h]
    rfl

/-- **Providers take turns.**  A client that is opened in either way, for any number of providers
and at a node with any replies ready, is what the steps of the opening make of one that is only
set up; and these and fewer than `2 ^ 64` steps altogether use its providers in turns. -/
theorem providers_take_turns (dialect : Dialect) (way : Way) {url : String}
    (hurl : Url.check url = .ok ()) (chainId : UInt64) (poolSize timeoutMs : Nat)
    (replies : List ScriptedReply) (steps : List Step)
    (hshort : (way.steps ++ steps).length < 2 ^ 64) :
    ∃ l : Link (List ScriptedReply),
      connect url chainId poolSize timeoutMs replies = .ok l ∧ l.seen = [] ∧
      way.leaves (scripted dialect) url chainId poolSize timeoutMs replies =
        some (l.after (scripted dialect) way.steps) ∧
      TakesTurns dialect (max poolSize 1) l (way.steps ++ steps) := by
  obtain ⟨l, hconnect, hseen, hunused⟩ := connect_unused hurl chainId poolSize timeoutMs replies
  exact ⟨l, hconnect, hseen, way.leaves_of_connect hconnect, hunused.takesTurns hshort⟩

/-- A client of two providers that asked for the chain when it was opened: the request that hangs
and the step that sends nothing count like the others. -/
theorem providers_take_turns_of_two : Url.check "http://[::1]:8545" = .ok () ∧
    ∃ steps : List Step, steps = [.latest, .provider, .health, .latest] ∧
      (Way.asking.steps ++ steps).length < 2 ^ 64 ∧
      ∃ l : Link (List ScriptedReply),
        Way.asking.leaves (scripted .mute) "http://[::1]:8545" 1 2 5000
            [.result (.str "0x1"), .hang] =
          some (l.after (scripted .mute) Way.asking.steps) ∧
        TakesTurns .mute 2 l (Way.asking.steps ++ steps) ∧
        (l.outcomes (scripted .mute) (Way.asking.steps ++ steps))[2]? =
          some (.returned (.provider 0)) := by
  let steps : List Step := [.latest, .provider, .health, .latest]
  have hurl : Url.check "http://[::1]:8545" = .ok () := by decide +kernel
  have hshort : (Way.asking.steps ++ steps).length < 2 ^ 64 := by decide
  obtain ⟨l, -, -, hleaves, hturns⟩ :=
    providers_take_turns .mute .asking hurl 1 2 5000 [.result (.str "0x1"), .hang] steps hshort
  exact ⟨hurl, steps, rfl, hshort, l, hleaves, hturns, hturns.told 2 rfl⟩

end PairQuote.Rpc
