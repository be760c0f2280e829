import PairQuote.Proofs.Quote.Run
import PairQuote.Proofs.Rpc.Quantity
import PairQuote.Rpc.Client

/-! # What a call makes of a reply

A body is a reply with a result if its members are those of the right object (`Reply.Bears`).
A request **brings** a text if it is answered with such a body and the result
is a string (`Delivery.Brings`), and it **conveys** a value if the text means the value
(`Delivery.Conveys`).

Whatever becomes of its request, a call gives the value that is conveyed
(`Client.outcome_eq_ok_iff`), and stops if the text is one at which reading it stops
(`Client.outcome_eq_stopped_iff`).  In all other cases it fails with a text, and
is refused as a failure of the node (`Told`).
-/
namespace PairQuote.Rpc

/-! ## Replies -/

namespace Reply
variable {members : List (String × Json)} {value : Json}

/-- The members of an object that frames a result. -/
structure Bears (members : List (String × Json)) (value : Json) : Prop where
  distinct : (members.map (·.1)).Nodup
  known : ∀ name ∈ members.map (·.1), name ∈ ["jsonrpc", "id", "result", "error"]
  version : members.lookup "jsonrpc" = some (.str "2.0")
  /-- Which request is replied to does not matter. -/
  number : ∃ id : Nat, members.lookup "id" = some (.int id)
  result : members.lookup "result" = some value
  noError : members.lookup "error" = none

theorem namesDiffer_iff (names : List String) : namesDiffer names = true ↔ names.Nodup := by
  induction names with
  | nil => exact iff_of_true rfl List.nodup_nil
  | cons name names ih =>
    rw [namesDiffer, Bool.and_eq_true, ih, List.nodup_cons]
    simp

theorem bind_guard_eq_some_iff {α : Type} {p : Prop} [Decidable p] {rest : Option α} {a : α} :
    ((guard p : Option Unit).bind fun _ => rest) = some a ↔ p ∧ rest = some a := by
  by_cases h : p
  · rw [guard, if_pos h]
    exact ⟨fun hrest => ⟨h, hrest⟩, fun hrest => hrest.2⟩
  · rw [guard, if_neg h]
    exact ⟨nofun, fun hrest => absurd hrest.1 h⟩

/-- An error object is never taken for a result. -/
theorem failureOf?_ne_result (e value : Json) : failureOf? e ≠ some (result value) := by
  intro h
  cases e with
  | obj members =>
    obtain ⟨-, h⟩ := bind_guard_eq_some_iff.mp h
    split at h
    · split at h <;> cases h
    · cases h
  | _ => cases h

/-- **A result is read from the objects that frame it**, and from no others. -/
theorem ofMembers?_eq_result_iff :
    ofMembers? members = some (result value) ↔ Bears members value := by
  have hnames : (namesDiffer (members.map (·.1)) &&
      (members.map (·.1)).all ["jsonrpc", "id", "result", "error"].contains) = true ↔
        (members.map (·.1)).Nodup ∧
          ∀ name ∈ members.map (·.1), name ∈ ["jsonrpc", "id", "result", "error"] := by
    rw [Bool.and_eq_true, namesDiffer_iff, List.all_eq_true]
    simp only [List.contains_iff_mem]
  constructor
  · intro h
    obtain ⟨hallowed, h⟩ := bind_guard_eq_some_iff.mp h
    obtain ⟨hdistinct, hknown⟩ := hnames.mp hallowed
    split at h
    · next id hversion hid =>
      obtain ⟨hpos, h⟩ := bind_guard_eq_some_iff.mp h
      split at h
      · next found hresult herror =>
        obtain rfl : found = value := by
          cases h
          rfl
        exact ⟨hdistinct, hknown, hversion, ⟨id.toNat, by rw [hid, Int.toNat_of_nonneg hpos]⟩,
          hresult, herror⟩
      · exact absurd h (failureOf?_ne_result _ _)
      · cases h
    · cases h
  · rintro ⟨hdistinct, hknown, hversion, ⟨id, hid⟩, hresult, herror⟩
    refine bind_guard_eq_some_iff.mpr ⟨hnames.mpr ⟨hdistinct, hknown⟩, ?_⟩
    rw [hversion, hid, hresult, herror]
    exact bind_guard_eq_some_iff.mpr ⟨Int.natCast_nonneg id, rfl⟩

theorem ofBody?_eq_result_iff {body : String} : ofBody? body = some (result value) ↔
    ∃ members, members? body = some members ∧ Bears members value := by
  unfold ofBody?
  rw [Option.bind_eq_some_iff]
  exact exists_congr fun members => and_congr_right fun _ => ofMembers?_eq_result_iff

end Reply

/-! ## What a request brings -/

/-- The request is answered with a result that is a string. -/
def Delivery.Brings (d : Delivery) (text : String) : Prop :=
  ∃ (body : String) (members : List (String × Json)), d = .answered body ∧
    Reply.members? body = some members ∧ Reply.Bears members (.str text)

variable {τ α : Type} {means : String → α → Prop} {stops : String → Prop}
  {decode : String → Ending (Option α)} {d : Delivery}

/-- The request brings a text that means the value. -/
def Delivery.Conveys (means : String → α → Prop) (d : Delivery) (a : α) : Prop :=
  ∃ text, d.Brings text ∧ means text a

/-- The request brings a text at which reading it stops. -/
def Delivery.Stops (stops : String → Prop) (d : Delivery) : Prop :=
  ∃ text, d.Brings text ∧ stops text

/-- What is read from the text that a request brings, if it brings one. -/
def Delivery.read (decode : String → Ending (Option α)) : Delivery → Ending (Option α)
  | .answered body =>
    match Reply.ofBody? body with
    | some (.result value) => Link.ofString decode value
    | _ => .returned none
  | _ => .returned none

/-- Whatever is not nothing is read from the text that a request brings. -/
theorem Delivery.read_eq_iff {ending : Ending (Option α)} (h : ending ≠ .returned none) :
    d.read decode = ending ↔ ∃ text, d.Brings text ∧ decode text = ending := by
  constructor
  · rintro rfl
    unfold read at h ⊢
    split at h
    · next body =>
      split at h
      · next value hbody =>
        obtain ⟨members, hmembers, hbears⟩ := Reply.ofBody?_eq_result_iff.mp hbody
        cases value with
        | str text => exact ⟨text, ⟨body, members, rfl, hmembers, hbears⟩, rfl⟩
        | _ => exact absurd rfl h
      · exact absurd rfl h
    · exact absurd rfl h
  · rintro ⟨text, ⟨body, members, rfl, hmembers, hbears⟩, rfl⟩
    unfold read
    dsimp only
    rw [Reply.ofBody?_eq_result_iff.mpr ⟨members, hmembers, hbears⟩]
    rfl

/-! ## What a call makes of it -/

/-- A decoder reads what texts mean, and stops at some. -/
structure Decodes (decode : String → Ending (Option α)) (means : String → α → Prop)
    (stops : String → Prop) : Prop where
  value : ∀ text a, decode text = .returned (some a) ↔ means text a
  stopped : ∀ text, decode text = .stopped ↔ stops text

/-- A reader that always comes to an end stops at no text. -/
theorem Decodes.of_total {read? : String → Option α}
    (h : ∀ text a, read? text = some a ↔ means text a) :
    Decodes (fun text => .returned (read? text)) means fun _ => False where
  value text a := by rw [Ending.returned.injEq, h]
  stopped text := ⟨nofun, nofun⟩

theorem decodes_wordOf (front : FrontMarker) :
    Decodes (wordOf front) (IsData front) (IsMisfit front) where
  value _ _ := wordOf_eq_word_iff
  stopped _ := wordOf_eq_stopped_iff

namespace Client
variable (c : Client) (dialect : Dialect) (method : Method)

/-- A call comes to what is read; where nothing is, it fails with a text. -/
theorem outcome_eq (decode : String → Ending (Option α)) (d : Delivery) : ∃ text,
    c.outcome dialect method (Link.ofString decode) d =
      (d.read decode).map (Option.elim · (.error text) .ok) := by
  unfold outcome Delivery.read
  cases d with
  | unreachable cause => exact ⟨_, rfl⟩
  | silence => exact ⟨_, rfl⟩
  | answered body =>
    dsimp only
    cases Reply.ofBody? body with
    | none => exact ⟨_, rfl⟩
    | some reply => cases reply <;> exact ⟨_, rfl⟩

/-- **A call gives what its request conveys.** -/
theorem outcome_eq_ok_iff (hdecode : Decodes decode means stops) (d : Delivery) (a : α) :
    c.outcome dialect method (Link.ofString decode) d = .returned (.ok a) ↔ d.Conveys means a := by
  obtain ⟨text, houtcome⟩ := c.outcome_eq dialect method decode d
  have hread : d.read decode = .returned (some a) ↔ d.Conveys means a := by
    rw [Delivery.read_eq_iff (by simp)]
    exact exists_congr fun text => and_congr_right fun _ => hdecode.value text a
  rw [houtcome, ← hread, Ending.map_eq_returned_iff]
  constructor
  · rintro ⟨a?, ha?, hok⟩
    cases a? with
    | none => cases hok
    | some found => rw [ha?, Except.ok.inj hok]
  · exact fun h => ⟨some a, h, rfl⟩

/-- **A call stops if its request brings a text at which reading stops.** -/
theorem outcome_eq_stopped_iff (hdecode : Decodes decode means stops) (d : Delivery) :
    c.outcome dialect method (Link.ofString decode) d = .stopped ↔ d.Stops stops := by
  obtain ⟨text, houtcome⟩ := c.outcome_eq dialect method decode d
  rw [houtcome, Ending.map_eq_stopped_iff, Delivery.read_eq_iff (by simp)]
  exact exists_congr fun text => and_congr_right fun _ => hdecode.stopped text

end Client

/-! ## Calls to a chain -/

/-- The result of a call, of which a failure is one of the node. -/
def blamed (ending : Ending (Except String α)) : Ending (Except Refusal α) :=
  ending.map (·.mapError .chainUnavailable)

/-- What a call to the chain is told: the value that is conveyed, or nothing at all where it
stops, or that the node failed. -/
structure Told (means : String → α → Prop) (stops : String → Prop) (d : Delivery)
    (result : Ending (Except Refusal α)) : Prop where
  value : ∀ a, result = .returned (.ok a) ↔ d.Conveys means a
  stopped : result = .stopped ↔ d.Stops stops
  failure : (∀ a, ¬d.Conveys means a) → ¬d.Stops stops →
    ∃ text, result = .returned (.error (.chainUnavailable text))

theorem Client.told_outcome (c : Client) (dialect : Dialect) (method : Method)
    (hdecode : Decodes decode means stops) (d : Delivery) :
    Told means stops d (blamed (c.outcome dialect method (Link.ofString decode) d)) := by
  have hvalue := c.outcome_eq_ok_iff dialect method hdecode d
  have hstopped := c.outcome_eq_stopped_iff dialect method hdecode d
  cases houtcome : c.outcome dialect method (Link.ofString decode) d with
  | stopped =>
    rw [houtcome] at hvalue hstopped
    have hstops : d.Stops stops := hstopped.mp rfl
    refine ⟨fun a => ⟨nofun, fun h => ?_⟩, iff_of_true rfl hstops, fun _ h => absurd hstops h⟩
    exact nomatch (hvalue a).mpr h
  | returned result =>
    rw [houtcome] at hvalue hstopped
    have hgoes : ¬d.Stops stops := fun h => nomatch hstopped.mpr h
    cases result with
    | ok found =>
      refine ⟨fun a => ?_, iff_of_false nofun hgoes,
        fun hnone _ => absurd ((hvalue found).mp rfl) (hnone found)⟩
      rw [← hvalue]
      simp [blamed, Except.mapError]
    | error text =>
      refine ⟨fun a => ?_, iff_of_false nofun hgoes, fun _ _ => ⟨text, rfl⟩⟩
      rw [← hvalue]
      simp [blamed, Except.mapError]

namespace Link
variable (transport : Transport τ) (l : Link τ)

/-- The request that a call sends. -/
def request (method : Method) (params : Option (List String)) : Request :=
  ⟨l.client.issue.1, method, params⟩

/-- What becomes of the request of a call. -/
def delivery (method : Method) (params : Option (List String)) : Delivery :=
  (transport.send (l.request method params) l.node).1

theorem call_eq (method : Method) (params : Option (List String))
    (decode : Json → Ending (Option α)) : (l.call transport method params decode).1 =
      l.client.issue.2.outcome transport.dialect method decode
        (l.delivery transport method params) := rfl

/-- The node has seen the request of a call that has reached it. -/
theorem call_seen_of_reached {transport : Transport τ} {l : Link τ} {method : Method}
    {params : Option (List String)}
    (h : ∀ cause, l.delivery transport method params ≠ .unreachable cause)
    (decode : Json → Ending (Option α)) :
    (l.call transport method params decode).2.seen = l.seen ++ [l.request method params] := by
  unfold call
  dsimp only
  split
  · next hdelivery => exact absurd hdelivery (h _)
  · rfl

end Link

end PairQuote.Rpc
