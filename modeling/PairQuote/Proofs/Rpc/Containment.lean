import PairQuote.Proofs.Rpc.Opening
import PairQuote.Proofs.Rpc.Steps

/-! # A failed call is contained

Among the steps of a client, whatever they were told, a step that asks the node tells what the
same step tells **alone**: as the only one of a new client, over a transport by which every
request meets what the step's request has met (`Link.take_eq_alone`).  Nothing is left over from
earlier replies; and which request a reply is framed for makes no difference to what it brings
(`ScriptedReply.brings_congr`).

The rest is seen from a single step.  A failed call is refused as a failure of the node, with a
text that names its method; a step stops only if it is a read, at bytes that are not those of a
word (`Link.take_eq_stopped_iff`); one request is sent and one reply used up, whatever the step
ends in; and the client is healthy on the replies that tell it a block (`health_alone_iff`).
-/
namespace PairQuote.Rpc

variable {α τ : Type} {dialect : Dialect} {transport : Transport τ}

/-! ## A step alone -/

/-- The transport by which every request meets the same. -/
def Transport.always (dialect : Dialect) (d : Delivery) : Transport Unit where
  send _ _ := (d, ())
  dialect := dialect

/-- A new client of one provider. -/
def lone (timeoutMs : Nat) : Link Unit where
  client :=
    { chainId := 0
      timeoutMs := timeoutMs
      issued := #[0]
      issued_pos := Nat.zero_lt_one }
  node := ()

/-- What a step tells alone. -/
def Step.alone (dialect : Dialect) (timeoutMs : Nat) (d : Delivery) (step : Step) :
    Ending Outcome :=
  ((lone timeoutMs).take (.always dialect d) step).1

/-- Of a client, only the time that it waits plays a part in what a call comes to. -/
theorem Client.outcome_congr {c c' : Client} (htimeout : c.timeoutMs = c'.timeoutMs)
    (method : Method) (decode : Json → Ending (Option α)) (d : Delivery) :
    c.outcome dialect method decode d = c'.outcome dialect method decode d := by
  cases d with
  | silence =>
    show Ending.returned (Except.error (timeoutText method c.timeoutMs)) =
      .returned (.error (timeoutText method c'.timeoutMs))
    rw [htimeout]
  | _ => rfl

/-- **A step that asks tells what it tells alone** with what its request meets. -/
theorem Link.take_eq_alone (l : Link τ) {step : Step} {method : Method}
    {params : Option (List String)} (h : step.question? = some (method, params)) :
    (l.take transport step).1 = step.alone transport.dialect l.client.timeoutMs
      (l.delivery transport method params) := by
  have hsame : ∀ {α : Type} (decode : Json → Ending (Option α)),
      (l.call transport method params decode).1 =
        ((lone l.client.timeoutMs).call
          (.always transport.dialect (l.delivery transport method params)) method params
            decode).1 := by
    intro α decode
    rw [call_eq, call_eq]
    exact Client.outcome_congr rfl method decode _
  cases step with
  | chain =>
    cases h
    exact congrArg (fun r => (blamed r).map Outcome.chain)
      (hsame (ofString fun text => .returned (chainIdOf? text)))
  | latest =>
    cases h
    exact congrArg (fun r => (blamed r).map Outcome.block)
      (hsame (ofString fun text => .returned (blockOf? text)))
  | read contract slot block =>
    cases h
    exact congrArg (fun r => (blamed r).map Outcome.word)
      (hsame (ofString (wordOf transport.dialect.front)))
  | health =>
    cases h
    exact congrArg (fun r => (r.map Except.isOk).map Outcome.health)
      (hsame (ofString fun text => .returned (blockOf? text)))
  | provider => cases h

/-! ## Failures -/

/-- The text has the name of a method in it, between brackets. -/
def Names (method : Method) (text : String) : Prop :=
  ∃ before after : String, text = before ++ "(" ++ method.name ++ ")" ++ after

/-- The brackets may be written together with what is around them. -/
theorem names_of_parts {method : Method} {opened closed : String} (before after : String)
    (hopened : opened = before ++ "(") (hclosed : closed = ")" ++ after) (rest : String) :
    Names method (opened ++ method.name ++ closed ++ rest) := by
  refine ⟨before, after ++ rest, ?_⟩
  rw [hopened, hclosed]
  simp only [String.append_assoc]

theorem names_failureText (method : Method) (cause : String) :
    Names method (Client.failureText method cause) :=
  names_of_parts "Unable to connect to blockchain network " ": " (by decide +kernel)
    (by decide +kernel) cause

theorem names_timeoutText (method : Method) (timeoutMs : Nat) :
    Names method (Client.timeoutText method timeoutMs) := by
  have hbracket : " (" = " " ++ "(" := by decide +kernel
  have hopened : "Blockchain network timeout after " ++ Client.spanText timeoutMs ++ " (" =
      "Blockchain network timeout after " ++ Client.spanText timeoutMs ++ " " ++ "(" :=
    (congrArg ("Blockchain network timeout after " ++ Client.spanText timeoutMs ++ ·)
      hbracket).trans String.append_assoc.symm
  have hnames : Names method (Client.timeoutText method timeoutMs ++ "") :=
    names_of_parts _ "" hopened String.append_empty.symm ""
  rwa [String.append_empty] at hnames

theorem Client.names_of_outcome (c : Client) {method : Method}
    {decode : Json → Ending (Option α)} {d : Delivery} {text : String}
    (h : c.outcome dialect method decode d = .returned (.error text)) : Names method text := by
  have hfailure : ∀ cause, (Except.error (failureText method cause) : Except String α) =
      .error text → Names method text :=
    fun cause hcause => Except.error.inj hcause ▸ names_failureText method cause
  unfold outcome at h
  cases d with
  | unreachable cause => exact hfailure cause (Ending.returned.inj h)
  | silence =>
    exact Except.error.inj (Ending.returned.inj h) ▸ names_timeoutText method c.timeoutMs
  | answered body =>
    dsimp only at h
    split at h
    · obtain ⟨a?, -, ha?⟩ := Ending.map_eq_returned_iff.mp h
      cases a? with
      | none => exact hfailure _ ha?
      | some a => cases ha?
    · exact hfailure _ (Ending.returned.inj h)
    · exact hfailure _ (Ending.returned.inj h)

/-- What tells the refusals of a call tells failures of the node, which name the method. -/
theorem Client.refusal_of_outcome (c : Client) {method : Method}
    {decode : Json → Ending (Option α)} {d : Delivery} {tell : Except Refusal α → Outcome}
    (htell : ∀ result, (tell result).refusal? = refusalIn result) {told : Outcome} {e : Refusal}
    (h : (blamed (c.outcome dialect method decode d)).map tell = .returned told)
    (he : told.refusal? = some e) : ∃ text, e = .chainUnavailable text ∧ Names method text := by
  obtain ⟨_, hblamed, rfl⟩ := Ending.map_eq_returned_iff.mp h
  obtain ⟨result, hresult, rfl⟩ := Ending.map_eq_returned_iff.mp hblamed
  rw [htell] at he
  cases result with
  | ok a => cases he
  | error text => exact ⟨text, (Option.some.inj he).symm, c.names_of_outcome hresult⟩

namespace Link
variable (l : Link τ)

/-- **A step that fails blames the node**, and names the method it asked with. -/
theorem refusal_take {step : Step} {told : Outcome} {e : Refusal}
    (h : (l.take transport step).1 = .returned told) (he : told.refusal? = some e) :
    ∃ question ∈ step.question?, ∃ text,
      e = .chainUnavailable text ∧ Names question.1 text := by
  cases step with
  | chain => exact ⟨_, rfl, l.client.issue.2.refusal_of_outcome (fun _ => rfl) h he⟩
  | latest => exact ⟨_, rfl, l.client.issue.2.refusal_of_outcome (fun _ => rfl) h he⟩
  | read contract slot block =>
    exact ⟨_, rfl, l.client.issue.2.refusal_of_outcome (fun _ => rfl) h he⟩
  | health =>
    obtain ⟨isHealthy, -, rfl⟩ := Ending.map_eq_returned_iff.mp h
    cases he
  | provider =>
    cases h
    cases he

/-- **Only a read can stop**, at bytes that are not those of a word. -/
theorem take_eq_stopped_iff (step : Step) : (l.take transport step).1 = .stopped ↔
    ∃ contract slot block, step = .read contract slot block ∧
      (l.delivery transport .storageAt (some (storageParams contract slot block))).Stops
        (IsMisfit transport.dialect.front) := by
  have hgoes : ∀ {ending : Ending Outcome}, ending ≠ .stopped →
      (∀ contract slot block, step ≠ .read contract slot block) →
        (ending = .stopped ↔ ∃ contract slot block, step = .read contract slot block ∧
          (l.delivery transport .storageAt (some (storageParams contract slot block))).Stops
            (IsMisfit transport.dialect.front)) :=
    fun hne hother => iff_of_false hne fun ⟨_, _, _, hread, _⟩ => hother _ _ _ hread
  cases step with
  | chain =>
    obtain ⟨result, hresult, -⟩ := l.chain_eq_returned transport
    refine hgoes ?_ (fun _ _ _ => nofun)
    show (blamed (l.chain transport).1).map Outcome.chain ≠ .stopped
    rw [hresult]
    exact nofun
  | latest =>
    refine hgoes (fun h => ?_) (fun _ _ _ => nofun)
    exact l.latest_ne_stopped transport
      (Ending.map_eq_stopped_iff.mp (Ending.map_eq_stopped_iff.mp h))
  | read contract slot block =>
    have hread : (l.take transport (.read contract slot block)).1 =
        (blamed (l.read transport contract slot block).1).map Outcome.word := rfl
    rw [hread, Ending.map_eq_stopped_iff, (l.told_read transport contract slot block).stopped]
    constructor
    · exact fun h => ⟨contract, slot, block, rfl, h⟩
    · rintro ⟨_, _, _, hsame, h⟩
      cases hsame
      exact h
  | health =>
    obtain ⟨healthy, hhealthy, -⟩ := l.isHealthy_eq_returned transport
    refine hgoes ?_ (fun _ _ _ => nofun)
    show (l.isHealthy transport).1.map Outcome.health ≠ .stopped
    rw [hhealthy]
    exact nofun
  | provider => exact hgoes nofun (fun _ _ _ => nofun)

end Link

/-! ## A step among others -/

namespace Link
variable (l : Link (List ScriptedReply))

/-- The steps that ask have used up one reply each. -/
theorem after_node (steps : List Step) :
    (l.after (scripted dialect) steps).node = l.node.drop (steps.countP Step.asks) := by
  induction steps generalizing l with
  | nil => rfl
  | cons step steps ih =>
    rw [after_cons, ih, take_node, List.drop_drop, length_sent, List.countP_cons, Nat.add_comm]

/-- The reply to a step among others: the one after those that the steps before it use up. -/
def replyTo (steps : List Step) (i : Nat) : ScriptedReply :=
  l.node[(steps.take i).countP Step.asks]?.getD .nothing

theorem head_after_node (steps : List Step) (i : Nat) :
    (l.after (scripted dialect) (steps.take i)).node.head?.getD .nothing = l.replyTo steps i := by
  rw [after_node, List.head?_drop, replyTo]

variable (dialect) in
/-- What the request of a step among others meets. -/
def meets (steps : List Step) (i : Nat) (question : Method × Option (List String)) : Delivery :=
  (l.replyTo steps i).delivery
    ((l.after (scripted dialect) (steps.take i)).request question.1 question.2)

theorem delivery_after (steps : List Step) (i : Nat) (method : Method)
    (params : Option (List String)) :
    (l.after (scripted dialect) (steps.take i)).delivery (scripted dialect) method params =
      l.meets dialect steps i (method, params) := by
  rw [delivery_scripted, head_after_node, meets]

end Link

/-- What a step among others tells and does, at a place of a row of steps. -/
structure Contained (dialect : Dialect) (l : Link (List ScriptedReply)) (steps : List Step)
    (i : Nat) (step : Step) (outcome : Ending Outcome) : Prop where
  /-- Neither the replies to other steps nor their failures matter. -/
  alone : ∀ question ∈ step.question?,
    outcome = step.alone dialect l.client.timeoutMs (l.meets dialect steps i question)
  /-- A provider that is taken without asking is told by how many steps there were before. -/
  provider : step = .provider → outcome =
    .returned (.provider ((l.client.turns + UInt64.ofNat i).toNat % l.client.connections))
  /-- A read stops at bytes that are not those of a word, and nothing else stops. -/
  stopped : outcome = .stopped ↔ ∃ contract slot block, step = .read contract slot block ∧
    (l.meets dialect steps i (.storageAt, some (storageParams contract slot block))).Stops
      (IsMisfit dialect.front)
  /-- A failure is worth another try, and its text has the method of the step in it. -/
  failure : ∀ told e, outcome = .returned told → told.refusal? = some e →
    e.isRetryable = true ∧ ∃ question ∈ step.question?, ∃ text,
      e = .chainUnavailable text ∧ Names question.1 text
  /-- A step that asks sends its question once, and any other sends nothing. -/
  sent : ∃ requests : List Request,
    requests.map (fun r => (r.method, r.params)) = step.question?.toList ∧
    (l.after (scripted dialect) (steps.take (i + 1))).seen =
      (l.after (scripted dialect) (steps.take i)).seen ++ requests ∧
    (l.after (scripted dialect) (steps.take (i + 1))).node =
      (l.after (scripted dialect) (steps.take i)).node.drop requests.length

theorem contained_step (l : Link (List ScriptedReply)) {steps : List Step} {i : Nat}
    {step : Step} (h : steps[i]? = some step) : Contained dialect l steps i step
      ((l.after (scripted dialect) (steps.take i)).take (scripted dialect) step).1 := by
  have hafter : l.after (scripted dialect) (steps.take (i + 1)) =
      ((l.after (scripted dialect) (steps.take i)).take (scripted dialect) step).2 := by
    rw [List.take_add_one, h, Option.toList_some, Link.after_concat]
  constructor
  case alone =>
    rintro ⟨method, params⟩ hquestion
    rw [Link.take_eq_alone _ hquestion, Link.after_timeoutMs, Link.delivery_after]
    rfl
  case provider =>
    rintro rfl
    have hi : i ≤ steps.length := Nat.le_of_lt (List.getElem?_eq_some_iff.mp h).1
    show Ending.returned (Outcome.provider
      ((l.after (scripted dialect) (steps.take i)).client.turns.toNat %
        (l.after (scripted dialect) (steps.take i)).client.connections)) = _
    rw [Link.after_turns, Link.after_connections, List.length_take, Nat.min_eq_left hi]
  case stopped =>
    rw [Link.take_eq_stopped_iff]
    simp only [Link.delivery_after]
    rfl
  case failure =>
    intro told e htold he
    obtain ⟨question, hquestion, text, rfl, hnames⟩ := Link.refusal_take _ htold he
    exact ⟨rfl, question, hquestion, text, rfl, hnames⟩
  case sent =>
    refine ⟨(l.after (scripted dialect) (steps.take i)).sent step, ?_, ?_, ?_⟩
    · cases step <;> rfl
    · rw [hafter, Link.take_seen]
    · rw [hafter, Link.take_node]

/-! ## Replies -/

theorem Delivery.brings_answered_iff {body text : String} : (answered body).Brings text ↔
    Reply.ofBody? body = some (.result (.str text)) := by
  rw [Reply.ofBody?_eq_result_iff]
  constructor
  · rintro ⟨_, members, hbody, hbrings⟩
    cases hbody
    exact ⟨members, hbrings⟩
  · rintro ⟨members, hbrings⟩
    exact ⟨body, members, rfl, hbrings⟩

/-- **Which request a reply is framed for makes no difference** to what it brings. -/
theorem ScriptedReply.brings_congr (reply : ScriptedReply) (request request' : Request)
    (text : String) :
    (reply.delivery request).Brings text ↔ (reply.delivery request').Brings text := by
  have hframed : ∀ (name : String) (value : Json),
      (Delivery.answered (frame request.id.toNat name value).text).Brings text ↔
        (Delivery.answered (frame request'.id.toNat name value).text).Brings text := by
    intro name value
    rw [Delivery.brings_answered_iff, Delivery.brings_answered_iff,
      Reply.ofBody?_frame_congr request.id.toNat_lt request'.id.toNat_lt]
  cases reply with
  | result value => exact hframed "result" value
  | failure error => exact hframed "error" error
  | raw body => exact Iff.rfl
  | hang => exact Iff.rfl

/-! ### Health -/

section Alone
variable (dialect) (timeoutMs : Nat) (d : Delivery)

theorem latest_alone_iff (block : UInt64) :
    Step.latest.alone dialect timeoutMs d = .returned (.block (.ok block)) ↔
      d.Conveys IsBlock block := by
  have htold : Told IsBlock (fun _ => False) d
      (blamed ((lone timeoutMs).latest (.always dialect d)).1) :=
    (lone timeoutMs).told_latest (.always dialect d)
  have halone : Step.latest.alone dialect timeoutMs d =
      (blamed ((lone timeoutMs).latest (.always dialect d)).1).map .block := rfl
  rw [← htold.value, halone, Ending.map_eq_returned_iff]
  constructor
  · rintro ⟨result, hresult, hblock⟩
    rw [hresult, Outcome.block.inj hblock]
  · exact fun h => ⟨_, h, rfl⟩

/-- **A client is healthy on the replies that tell it a block.** -/
theorem health_alone_iff : Step.health.alone dialect timeoutMs d = .returned (.health true) ↔
    ∃ block, Step.latest.alone dialect timeoutMs d = .returned (.block (.ok block)) := by
  simp only [latest_alone_iff]
  obtain ⟨healthy, hhealthy, hconveys⟩ :=
    (lone timeoutMs).isHealthy_eq_returned (.always dialect d)
  have halone : Step.health.alone dialect timeoutMs d =
      ((lone timeoutMs).isHealthy (.always dialect d)).1.map .health := rfl
  have hblock : healthy = true ↔ ∃ block, d.Conveys IsBlock block := hconveys
  rw [halone, hhealthy, ← hblock]
  exact ⟨fun h => Outcome.health.inj (Ending.returned.inj h), fun h => h ▸ rfl⟩

end Alone

/-- **A failed call is contained.**  Whatever a client of any number of providers has been
through, and whatever replies its node has ready, every step of a row of steps tells what its
question and its own reply fix, fails only as a failure of the node, stops only at bytes that are
not those of a word, and sends its question once.  The client is healthy on exactly the replies
on which it is told a block. -/
theorem contained (dialect : Dialect) (l : Link (List ScriptedReply)) (steps : List Step) :
    (∀ i step, steps[i]? = some step → ∃ outcome,
      (l.outcomes (scripted dialect) steps)[i]? = some outcome ∧
        Contained dialect l steps i step outcome) ∧
    (∀ (reply : ScriptedReply) (request request' : Request) (text : String),
      (reply.delivery request).Brings text ↔ (reply.delivery request').Brings text) ∧
    ∀ timeoutMs d,
      (Step.health.alone dialect timeoutMs d = .returned (.health true) ↔
        ∃ block, Step.latest.alone dialect timeoutMs d = .returned (.block (.ok block))) ∧
      ∀ block, Step.latest.alone dialect timeoutMs d = .returned (.block (.ok block)) ↔
        d.Conveys IsBlock block := by
  refine ⟨fun i step h => ⟨_, ?_, contained_step l h⟩, ScriptedReply.brings_congr,
    fun timeoutMs d => ⟨health_alone_iff dialect timeoutMs d, latest_alone_iff dialect timeoutMs d⟩⟩
  rw [Link.getElem?_outcomes, h, Option.map_some]

/-- A client of two providers is not answered, then told of an error, and then given thirty-three
bytes for a word, at which the read stops.  After that it reads the head from the fourth reply, as
if nothing had happened. -/
theorem contained_after_failures : ∃ l : Link (List ScriptedReply),
    l.client.connections = 2 ∧
    l.node = [.hang, .failure (.obj [("code", .int (-32005)), ("message", .str "busy")]),
      .result (.str thirtyThreeBytes), .result (.str "0x10")] ∧
    ∃ steps : List Step,
      steps = [.latest, .provider, .health, .read Address.zero 8 16, .latest] ∧
      steps[3]? = some (.read Address.zero 8 16) ∧ steps[4]? = some .latest ∧
      (l.outcomes (scripted .mute) steps)[3]? = some .stopped ∧
      (l.outcomes (scripted .mute) steps)[4]? = some (.returned (.block (.ok 16))) := by
  let l : Link (List ScriptedReply) :=
    { client :=
        { chainId := 1
          timeoutMs := 5000
          issued := #[0, 0]
          issued_pos := Nat.zero_lt_two }
      node := [.hang, .failure (.obj [("code", .int (-32005)), ("message", .str "busy")]),
        .result (.str thirtyThreeBytes), .result (.str "0x10")] }
  let steps : List Step := [.latest, .provider, .health, .read Address.zero 8 16, .latest]
  obtain ⟨hsteps, -, hhealth⟩ := contained .mute l steps
  obtain ⟨atRead, hread, hstops⟩ := hsteps 3 (.read Address.zero 8 16) rfl
  obtain ⟨atLatest, hlatest, hcontained⟩ := hsteps 4 .latest rfl
  have hstopped : atRead = .stopped :=
    hstops.stopped.mpr ⟨_, _, _, rfl, thirtyThreeBytes, ScriptedReply.brings_result _ _,
      wordOf_eq_stopped_iff.mp (by decide +kernel)⟩
  have htold : atLatest = .returned (.block (.ok 16)) := by
    rw [hcontained.alone _ rfl]
    exact ((hhealth 5000 _).2 16).mpr ⟨"0x10", ScriptedReply.brings_result _ _,
      blockOf?_eq_some_iff.mp (by decide +kernel)⟩
  exact ⟨l, rfl, rfl, steps, rfl, rfl, rfl, hstopped ▸ hread, htold ▸ hlatest⟩

end PairQuote.Rpc
