import PairQuote.Proofs.Rpc.Frame

/-! # Opening a client at any node

A client is opened if the node reports the expected chain, and is refused for its
configuration if the node reports another one; a node that reports none has failed
(`Opening`).  There is one exception.  A chain number is read with up to 256 bits, but it is
compared as a number of 64 bits, and the opening stops if it is wider.

Once a client is there, a reply gives a value or makes the call fail, again with one exception:
a read stops at bytes that are not those of a word.  The number of the latest block and the
health of the node are always told.
-/
namespace PairQuote.Rpc

variable {τ : Type} {transport : Transport τ} {url : String}

/-! ## The first request -/

/-- What opening a client comes to, when the request for the chain meets `d`. -/
structure Opening (expected : UInt64) (d : Delivery) (result : Ending (Except Refusal Unit)) :
    Prop where
  opened : result = .returned (.ok ()) ↔ d.Conveys (IsQuantity 64) expected.toNat
  elsewhere : ∀ got, d.Conveys (IsQuantity 64) got → got ≠ expected.toNat → got < 2 ^ 64 →
    result = .returned (.error (chainMismatch expected.toNat got))
  failed : (∀ got, ¬d.Conveys (IsQuantity 64) got) →
    ∃ text, result = .returned (.error (.chainUnavailable text))
  /-- The number is well-formed, and of another chain. -/
  stopped : result = .stopped ↔ ∃ got, d.Conveys (IsQuantity 64) got ∧ 2 ^ 64 ≤ got

/-- A client is set up with any valid URL, and its first request has the number one. -/
theorem connect_of_valid (hurl : Url.check url = .ok ()) (chainId : UInt64)
    (poolSize timeoutMs : Nat) (node : τ) :
    ∃ l, connect url chainId poolSize timeoutMs node = .ok l ∧ l.node = node ∧
      l.client.chainId = chainId ∧
      ∀ method params, l.request method params = ⟨1, method, params⟩ := by
  unfold connect Client.connect
  rw [hurl]
  refine ⟨_, rfl, rfl, rfl, fun method params => ?_⟩
  unfold Link.request Client.issue
  simp

theorem openChecked_of_connect {chainId : UInt64} {poolSize timeoutMs : Nat} {node : τ}
    {l : Link τ} (h : connect url chainId poolSize timeoutMs node = .ok l) :
    openChecked transport url chainId poolSize timeoutMs node =
      ((l.chain transport).1.bind (settle chainId), some (l.chain transport).2) := by
  unfold openChecked
  rw [h]

/-! ### The number of the chain -/

section Settle
variable {expected : UInt64} {got : Nat}

theorem settle_eq_ok_iff :
    settle expected (.ok got) = .returned (.ok ()) ↔ got = expected.toNat := by
  have hexpected : expected.toNat < UInt64.size := expected.toNat_lt
  unfold settle
  dsimp only
  split
  · exact ⟨nofun, fun h => by omega⟩
  · split
    · next hsame => exact iff_of_true rfl hsame
    · next hother => exact ⟨nofun, fun h => absurd h hother⟩

theorem settle_of_other (hother : got ≠ expected.toNat) (hfits : got < UInt64.size) :
    settle expected (.ok got) = .returned (.error (chainMismatch expected.toNat got)) := by
  unfold settle
  dsimp only
  rw [if_neg (Nat.not_le.mpr hfits), if_neg hother]

theorem settle_eq_stopped_iff : settle expected (.ok got) = .stopped ↔ UInt64.size ≤ got := by
  unfold settle
  dsimp only
  split
  · next hwide => exact iff_of_true rfl hwide
  · next hfits =>
    refine ⟨?_, fun h => absurd h hfits⟩
    split <;> exact nofun

/-- The four kinds of reports come to the four kinds of results. -/
theorem opening_settle {d : Delivery} {outcome : Except String Nat}
    (houtcome : ∀ got, outcome = .ok got ↔ d.Conveys (IsQuantity 64) got) :
    Opening expected d (settle expected outcome) := by
  cases outcome with
  | error text =>
    -- The call failed, so nothing was conveyed.
    have hnone : ∀ got, ¬d.Conveys (IsQuantity 64) got := by
      intro got h
      cases (houtcome got).mpr h
    constructor
    · exact ⟨nofun, fun h => absurd h (hnone _)⟩
    · exact fun got h => absurd h (hnone got)
    · exact fun _ => ⟨text, rfl⟩
    · exact ⟨nofun, fun ⟨got, h, _⟩ => absurd h (hnone got)⟩
  | ok got =>
    -- What was conveyed is `got` and no other number.
    have hgot : ∀ other, d.Conveys (IsQuantity 64) other ↔ got = other := by
      intro other
      rw [← houtcome, Except.ok.injEq]
    constructor
    · rw [settle_eq_ok_iff, hgot]
    · intro other hother hne hfits
      obtain rfl := (hgot other).mp hother
      exact settle_of_other hne hfits
    · exact fun hnone => absurd ((hgot got).mpr rfl) (hnone got)
    · rw [settle_eq_stopped_iff]
      constructor
      · exact fun hwide => ⟨got, (hgot got).mpr rfl, hwide⟩
      · rintro ⟨other, hother, hwide⟩
        obtain rfl := (hgot other).mp hother
        exact hwide

end Settle

/-- The number of a chain is always told, or that the node failed. -/
theorem Link.chain_eq_returned (transport : Transport τ) (l : Link τ) :
    ∃ result : Except String Nat, (l.chain transport).1 = .returned result ∧
      ∀ got, result = .ok got ↔
        (l.delivery transport .chainId none).Conveys (IsQuantity 64) got := by
  have hdecode : Decodes (fun text => .returned (chainIdOf? text)) (IsQuantity 64) fun _ => False :=
    .of_total fun _ _ => chainIdOf?_eq_some_iff
  have hvalue := l.client.issue.2.outcome_eq_ok_iff transport.dialect .chainId hdecode
    (l.delivery transport .chainId none)
  have hstopped := l.client.issue.2.outcome_eq_stopped_iff transport.dialect .chainId hdecode
    (l.delivery transport .chainId none)
  unfold Link.chain
  rw [Link.call_eq]
  cases houtcome : l.client.issue.2.outcome transport.dialect .chainId
      (Link.ofString fun text => .returned (chainIdOf? text))
      (l.delivery transport .chainId none) with
  | stopped =>
    obtain ⟨text, -, hfalse⟩ := hstopped.mp houtcome
    exact hfalse.elim
  | returned result =>
    refine ⟨result, rfl, fun got => ?_⟩
    rw [← hvalue, houtcome, Ending.returned.injEq]

/-- **Opening a client comes to what the node reports**, at every node. -/
theorem opening_openChecked (transport : Transport τ) (hurl : Url.check url = .ok ())
    (chainId : UInt64) (poolSize timeoutMs : Nat) (node : τ) :
    Opening chainId (transport.send ⟨1, .chainId, none⟩ node).1
        (openChecked transport url chainId poolSize timeoutMs node).1 ∧
      ∃ l, (openChecked transport url chainId poolSize timeoutMs node).2 = some l ∧
        l.client.chainId = chainId := by
  obtain ⟨l, hconnect, hnode, hchain, hrequest⟩ :=
    connect_of_valid hurl chainId poolSize timeoutMs node
  obtain ⟨result, hresult, hgot⟩ := l.chain_eq_returned transport
  rw [openChecked_of_connect hconnect, hresult]
  refine ⟨?_, _, rfl, hchain⟩
  rw [← hnode, ← hrequest]
  exact opening_settle hgot

/-! ## Every request -/

/-- The text of the number of a block. -/
def IsBlock (text : String) (block : UInt64) : Prop := IsQuantity 16 text block.toNat

theorem decodes_blockOf? :
    Decodes (fun text => .returned (blockOf? text)) IsBlock fun _ => False :=
  .of_total fun _ _ => blockOf?_eq_some_iff

namespace Link
variable (transport : Transport τ) (l : Link τ)

theorem told_latest : Told IsBlock (fun _ => False) (l.delivery transport .blockNumber none)
    (blamed (l.latest transport).1) :=
  Client.told_outcome _ _ _ decodes_blockOf? _

theorem told_read (contract : Address) (slot block : UInt64) : Told (IsData transport.dialect.front)
    (IsMisfit transport.dialect.front)
    (l.delivery transport .storageAt (some (storageParams contract slot block)))
    (blamed (l.read transport contract slot block).1) :=
  Client.told_outcome _ _ _ (decodes_wordOf _) _

/-- Reading the number of a block never stops. -/
theorem latest_ne_stopped : (l.latest transport).1 ≠ .stopped := by
  intro h
  obtain ⟨text, -, hfalse⟩ := (l.told_latest transport).stopped.mp (congrArg blamed h)
  exact hfalse

/-- **The health of a node is always told**, and good if the node conveys a block. -/
theorem isHealthy_eq_returned : ∃ healthy, (l.isHealthy transport).1 = .returned healthy ∧
    (healthy = true ↔ ∃ block, (l.delivery transport .blockNumber none).Conveys IsBlock block) := by
  have hlatest : ∀ block, (l.latest transport).1 = .returned (.ok block) ↔
      (l.delivery transport .blockNumber none).Conveys IsBlock block :=
    Client.outcome_eq_ok_iff _ _ _ decodes_blockOf? _
  have hhealthy : (l.isHealthy transport).1 = (l.latest transport).1.map Except.isOk := rfl
  rw [hhealthy]
  simp only [← hlatest]
  cases h : (l.latest transport).1 with
  | stopped => exact absurd h (l.latest_ne_stopped transport)
  | returned result =>
    refine ⟨result.isOk, rfl, ?_⟩
    cases result with
    | ok block => exact iff_of_true rfl ⟨block, rfl⟩
    | error text => exact iff_of_false Bool.false_ne_true (by simp)

end Link

/-- **Two replies of a node do harm, and no others**: a chain number of more than 64 bits when a
client is opened, and a word of more than thirty-two bytes.  With any valid URL and at any node,
opening a client comes to what the node reports.  Whatever a client and its node have been
through, the number of the latest block is told as it is conveyed, or else that the node failed;
so is a word, unless it is such a long one; and the node is healthy if it conveys a block. -/
theorem harmless (transport : Transport τ) (hurl : Url.check url = .ok ()) (chainId : UInt64)
    (poolSize timeoutMs : Nat) (node : τ) :
    Opening chainId (transport.send ⟨1, .chainId, none⟩ node).1
        (openChecked transport url chainId poolSize timeoutMs node).1 ∧
      (∃ l, (openChecked transport url chainId poolSize timeoutMs node).2 = some l ∧
        l.client.chainId = chainId) ∧
      ∀ l : Link τ,
        (Told IsBlock (fun _ => False) (l.delivery transport .blockNumber none)
            (blamed (l.latest transport).1) ∧
          (l.latest transport).1 ≠ .stopped) ∧
        (∀ contract slot block, Told (IsData transport.dialect.front)
    (IsMisfit transport.dialect.front)
          (l.delivery transport .storageAt (some (storageParams contract slot block)))
          (blamed (l.read transport contract slot block).1)) ∧
        ∃ healthy, (l.isHealthy transport).1 = .returned healthy ∧ (healthy = true ↔
          ∃ block, (l.delivery transport .blockNumber none).Conveys IsBlock block) := by
  obtain ⟨hopening, hclient⟩ := opening_openChecked transport hurl chainId poolSize timeoutMs node
  refine ⟨hopening, hclient, fun l => ?_⟩
  exact ⟨⟨l.told_latest transport, l.latest_ne_stopped transport⟩, l.told_read transport,
    l.isHealthy_eq_returned transport⟩

/-! ## Two nodes -/

/-- Words that tell nothing, and no marker in front. -/
def Dialect.mute : Dialect := ⟨fun _ _ => "", fun _ => "", .refused⟩

/-- Thirty-three bytes, as a reply. -/
def thirtyThreeBytes : String := "0x" ++ String.ofList (List.replicate 66 '0')

/-- A node that reports another chain, of a number with zeros in front.  A client that finds it
with nothing more to say is told so, and one that asks it for a word and gets thirty-three bytes
stops. -/
theorem harmless_of_other_chain :
    Url.check "http://[::1]:8545" = .ok () ∧
      (openChecked (scripted .mute) "http://[::1]:8545" 1 3 10000
          [.result (.str "0x0002105")]).1 =
        .returned (.error (.misconfigured "Chain ID mismatch: expected 1, got 8453")) ∧
      (∀ l : Link (List ScriptedReply), l.node = [] →
        ∃ text, blamed (l.latest (scripted .mute)).1 =
          .returned (.error (.chainUnavailable text))) ∧
      ∀ l : Link (List ScriptedReply), l.node = [.result (.str thirtyThreeBytes)] →
        blamed (l.read (scripted .mute) Address.zero 8 16).1 = .stopped := by
  have hurl : Url.check "http://[::1]:8545" = .ok () := by decide +kernel
  obtain ⟨hopening, -, hcalls⟩ :=
    harmless (scripted .mute) hurl 1 3 10000 [.result (.str "0x0002105")]
  refine ⟨hurl, ?_, fun l hempty => ?_, fun l hwide => ?_⟩
  · have hreport : ((scripted .mute).send ⟨1, .chainId, none⟩
        [.result (.str "0x0002105")]).1.Conveys (IsQuantity 64) 8453 :=
      ⟨_, ScriptedReply.brings_result _ _, chainIdOf?_eq_some_iff.mp (by decide +kernel)⟩
    have htold : chainMismatch (1 : UInt64).toNat 8453 =
        .misconfigured "Chain ID mismatch: expected 1, got 8453" := by decide +kernel
    rw [hopening.elsewhere 8453 hreport (by decide) (by decide), htold]
  · have hnothing : ∀ text, ¬(l.delivery (scripted .mute) .blockNumber none).Brings text := by
      rintro text ⟨body, members, hbody, hmembers, -⟩
      unfold Link.delivery at hbody
      rw [hempty] at hbody
      obtain rfl : "" = body := Delivery.answered.inj hbody
      have hnone : Reply.members? "" = none := by decide +kernel
      rw [hnone] at hmembers
      cases hmembers
    exact (hcalls l).1.1.failure (fun _ ⟨text, hbrings, _⟩ => hnothing text hbrings)
      fun ⟨text, hbrings, _⟩ => hnothing text hbrings
  · refine ((hcalls l).2.1 Address.zero 8 16).stopped.mpr ⟨thirtyThreeBytes, ?_, ?_⟩
    · unfold Link.delivery
      rw [hwide]
      exact ScriptedReply.brings_result _ thirtyThreeBytes
    · exact wordOf_eq_stopped_iff.mp (by decide +kernel)

/-- A node that reports a chain number of sixty-five bits, which is well-formed and another one
than the expected, stops the opening. -/
theorem stopped_by_wide_number :
    Url.check "http://[::1]:8545" = .ok () ∧
      ((scripted .mute).send ⟨1, .chainId, none⟩
        [.result (.str "0x10000000000000000")]).1.Conveys (IsQuantity 64) (2 ^ 64) ∧
      2 ^ 64 < 2 ^ 256 ∧ 2 ^ 64 ≠ (1 : UInt64).toNat ∧
      (openChecked (scripted .mute) "http://[::1]:8545" 1 3 10000
        [.result (.str "0x10000000000000000")]).1 = .stopped := by
  have hurl : Url.check "http://[::1]:8545" = .ok () := by decide +kernel
  have hreport : ((scripted .mute).send ⟨1, .chainId, none⟩
      [.result (.str "0x10000000000000000")]).1.Conveys (IsQuantity 64) (2 ^ 64) :=
    ⟨_, ScriptedReply.brings_result _ _, chainIdOf?_eq_some_iff.mp (by decide +kernel)⟩
  obtain ⟨hopening, -⟩ := opening_openChecked (scripted .mute) hurl 1 3 10000
    [.result (.str "0x10000000000000000")]
  exact ⟨hurl, hreport, by decide, by decide,
    hopening.stopped.mpr ⟨2 ^ 64, hreport, Nat.le_refl _⟩⟩

end PairQuote.Rpc
