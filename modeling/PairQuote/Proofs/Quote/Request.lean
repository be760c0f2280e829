import PairQuote.Proofs.Address.Reading
import PairQuote.QuoteRequest

/-! # What makes a request unacceptable

A request given as texts is checked before any call is made.  Its **faults** are listed in
the order in which they are looked for, each with its text; the first of them is the answer,
and if there is none the request is the one that the texts spell out (`QuoteRequest.check_eq`).

Checks that follow one another are one list of faults (`ruling_bind`), so that others can
put their own in front.
-/
namespace PairQuote

/-! ## Faults in a row -/

section Ruling
variable {α β : Type} {faults first second : List (Option String)} {cause : String} {a a' : α}
  {b : β} {next : α → Except Refusal β}

/-- The first fault of a list, and without a fault what the checks were made for. -/
def ruling (faults : List (Option String)) (a : α) : Except Refusal α :=
  match faults.findSome? id with
  | some cause => .error (.invalidRequest cause)
  | none => .ok a

theorem ruling_of_fault (h : faults.findSome? id = some cause) :
    ruling faults a = .error (.invalidRequest cause) := by
  rw [ruling, h]

theorem ruling_of_sound (h : faults.findSome? id = none) : ruling faults a = .ok a := by
  rw [ruling, h]

theorem ruling_eq_ok_iff : ruling faults a = .ok a' ↔ faults.findSome? id = none ∧ a = a' := by
  cases hfirst : faults.findSome? id with
  | some cause =>
    rw [ruling_of_fault hfirst]
    exact ⟨nofun, fun h => nomatch h.1⟩
  | none =>
    rw [ruling_of_sound hfirst, Except.ok.injEq]
    exact ⟨fun h => ⟨rfl, h⟩, fun h => h.2⟩

theorem ruling_eq_error_iff {e : Refusal} : ruling faults a = .error e ↔
    ∃ cause, faults.findSome? id = some cause ∧ e = .invalidRequest cause := by
  cases hfirst : faults.findSome? id with
  | some cause =>
    rw [ruling_of_fault hfirst, Except.error.injEq]
    constructor
    · rintro rfl
      exact ⟨cause, rfl, rfl⟩
    · rintro ⟨first, hsame, rfl⟩
      rw [Option.some.inj hsame]
  | none =>
    rw [ruling_of_sound hfirst]
    exact ⟨nofun, fun ⟨_, h, _⟩ => nomatch h⟩

/-- Checks after other checks come after them in the list.  They may rely on what the first
ones have established. -/
theorem ruling_bind (h : first.findSome? id = none → next a = ruling second b) :
    ruling first a >>= next = ruling (first ++ second) b := by
  cases hfirst : first.findSome? id with
  | some cause =>
    have hall : (first ++ second).findSome? id = some cause := by
      rw [List.findSome?_append, hfirst, Option.some_or]
    rw [ruling_of_fault hfirst, ruling_of_fault hall]
    rfl
  | none =>
    have hall : (first ++ second).findSome? id = second.findSome? id := by
      rw [List.findSome?_append, hfirst, Option.none_or]
    rw [ruling_of_sound hfirst, ruling, hall]
    exact h hfirst

/-- A check that refuses on a condition is the first of the checks from there on. -/
theorem ruling_check {c : Prop} [Decidable c] {next : Unit → Except Refusal β}
    (h : next () = ruling second b) :
    (if c then throw (Refusal.invalidRequest cause) >>= next else next ()) =
      ruling ((if c then some cause else none) :: second) b := by
  by_cases hc : c
  · rw [if_pos hc, if_pos hc]
    rfl
  · rw [if_neg hc, if_neg hc, h]
    rfl

end Ruling

/-! ## The faults of a request -/

/-- What is wrong with the text of an address in a field. -/
def Address.fault (field text : String) : Option String :=
  if Address.IsText text then none
  else some ("invalid " ++ field ++ " address format: " ++ text)

theorem Address.fault_eq_none_iff {field text : String} :
    Address.fault field text = none ↔ Address.IsText text := by
  unfold Address.fault
  split <;> simp_all

/-- The address in a text, if there is one in it. -/
def Address.inText (text : String) : Address := (Address.ofText? text).getD Address.zero

theorem Address.ofText?_of_isText {text : String} (h : Address.IsText text) :
    Address.ofText? text = some (Address.inText text) :=
  (Option.some_get ((Address.isSome_ofText?_iff text).mpr h)).symm.trans
    (congrArg some (Option.get_eq_getD _))

/-- The address of a field is read, or its text is the fault. -/
theorem Address.ofField_eq (field text : String) :
    Address.ofField field text = ruling [Address.fault field text] (Address.inText text) := by
  unfold Address.ofField Address.fault
  by_cases h : Address.IsText text
  · rw [Address.ofText?_of_isText h, if_pos h]
    rfl
  · have hnone : Address.ofText? text = none := by
      rw [← Option.not_isSome_iff_eq_none, Address.isSome_ofText?_iff]
      exact h
    rw [hnone, if_neg h]
    rfl

namespace QuoteRequest

/-- What can be wrong with a request, in the order in which it is looked for. -/
def faults (pair src dst : String) (amountIn : Nat) : List (Option String) :=
  [ if amountIn = 0 then some "source amount must be positive" else none,
    Address.fault "pool" pair,
    Address.fault "source token" src,
    Address.fault "destination token" dst,
    if Address.inText src = Address.inText dst then
      some "source and destination tokens cannot be the same"
    else none ]

/-- The texts are those of the three addresses of a request. -/
structure Spells (pair src dst : String) (request : QuoteRequest) : Prop where
  pair : Address.ofText? pair = some request.pair
  src : Address.ofText? src = some request.src
  dst : Address.ofText? dst = some request.dst

/-- The request that texts spell out. -/
def ofTexts (pair src dst : String) (amountIn : Nat) : QuoteRequest :=
  ⟨Address.inText pair, Address.inText src, Address.inText dst, amountIn⟩

/-- **The first fault of a request is the answer**; a request without a fault is the one that
its texts spell out. -/
theorem check_eq (pair src dst : String) (amountIn : Nat) :
    check pair src dst amountIn =
      ruling (faults pair src dst amountIn) (ofTexts pair src dst amountIn) := by
  unfold check
  refine ruling_check ?_
  rw [Address.ofField_eq]
  refine ruling_bind fun _ => ?_
  rw [Address.ofField_eq]
  refine ruling_bind fun _ => ?_
  rw [Address.ofField_eq]
  refine ruling_bind fun _ => ?_
  exact ruling_check rfl

/-- Without a fault the three texts are those of addresses. -/
theorem spells_ofTexts {pair src dst : String} {amountIn : Nat}
    (h : (faults pair src dst amountIn).findSome? id = none) :
    Spells pair src dst (ofTexts pair src dst amountIn) := by
  have hnone := List.findSome?_eq_none_iff.mp h
  have hpair : Address.fault "pool" pair = none :=
    hnone _ (List.mem_cons_of_mem _ List.mem_cons_self)
  have hsrc : Address.fault "source token" src = none :=
    hnone _ (List.mem_cons_of_mem _ (List.mem_cons_of_mem _ List.mem_cons_self))
  have hdst : Address.fault "destination token" dst = none :=
    hnone _ (List.mem_cons_of_mem _ (List.mem_cons_of_mem _
      (List.mem_cons_of_mem _ List.mem_cons_self)))
  rw [Address.fault_eq_none_iff] at hpair hsrc hdst
  exact ⟨Address.ofText?_of_isText hpair, Address.ofText?_of_isText hsrc,
    Address.ofText?_of_isText hdst⟩

end QuoteRequest

end PairQuote
