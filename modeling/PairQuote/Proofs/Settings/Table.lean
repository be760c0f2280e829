import Mathlib.Data.List.Nodup
import PairQuote.Proofs.Entries
import PairQuote.Settings.Path

/-! # Values in tables

What stands in a table after an entry was put into it, and after a source was brought in.

The sources of settings are **sheets** (`IsSheet`): tables of sections, each of which is a table of
plain values, with different names in lower case.  Bringing a sheet in is a choice for each place by
itself: what the sheet says there, and otherwise what has stood there before (`getIn?_overlay`).
The result is a sheet again.
-/
namespace PairQuote.Settings.Value

variable {P : String → Value → Prop} {v new target root : Value} {name other : String}
  {es : List (String × Value)}

/-! ## Entries -/

/-- Entries of a kind, under different names. -/
structure Tabular (P : String → Value → Prop) (es : List (String × Value)) : Prop where
  names : (es.map (·.1)).Nodup
  each : ∀ e ∈ es, P e.1 e.2

theorem tabular_nil : Tabular P [] := ⟨List.nodup_nil, nofun⟩

theorem tabular_cons_iff {e : String × Value} :
    Tabular P (e :: es) ↔ e.1 ∉ es.map (·.1) ∧ P e.1 e.2 ∧ Tabular P es := by
  constructor
  · rintro ⟨hnames, heach⟩
    obtain ⟨hfresh, hnames⟩ := List.nodup_cons.mp hnames
    obtain ⟨he, heach⟩ := List.forall_mem_cons.mp heach
    exact ⟨hfresh, he, hnames, heach⟩
  · rintro ⟨hfresh, he, hnames, heach⟩
    exact ⟨List.nodup_cons.mpr ⟨hfresh, hnames⟩, List.forall_mem_cons.mpr ⟨he, heach⟩⟩

@[simp] theorem get?_insert :
    (v.insert name new).get? other = if other = name then some new else v.get? other := by
  show List.lookup other ((name, new) :: v.entries.filter (·.1 ≠ name)) = _
  rw [Entries.lookup_cons_if, Entries.lookup_filter_ne]
  by_cases h : other = name
  · rw [if_pos h, if_pos h.symm]
  · rw [if_neg h, if_neg (Ne.symm h), if_neg (Ne.symm h)]
    rfl

theorem getIn?_insert {outer inner : String} :
    (v.insert name new).getIn? outer inner =
      if outer = name then new.get? inner else v.getIn? outer inner := by
  rw [getIn?, get?_insert]
  by_cases h : outer = name
  · rw [if_pos h, if_pos h, Option.bind_some]
  · rw [if_neg h, if_neg h]
    rfl

theorem Tabular.insert (h : Tabular P v.entries) (hnew : P name new) :
    Tabular P (v.insert name new).entries := by
  have hless : Tabular P (v.entries.filter (·.1 ≠ name)) :=
    ⟨h.names.sublist (List.filter_sublist.map _), fun e he => h.each e (List.mem_of_mem_filter he)⟩
  refine tabular_cons_iff.mpr ⟨?_, hnew, hless⟩
  rintro hmem
  obtain ⟨e, he, hsame⟩ := List.mem_map.mp hmem
  exact absurd hsame (by simpa using (List.mem_filter.mp he).2)

/-! ## Sections -/

/-- A value that is no table. -/
def isPlain : Value → Bool
  | .table _ => false
  | _ => true

/-- A plain value takes the place of what was there. -/
theorem put_of_isPlain (h : v.isPlain = true) : put name v root = root.insert name v := by
  cases v with
  | table es => cases h
  | _ => rfl

/-- An entry of a section: a plain value under a name in lower case. -/
def IsCell (name : String) (v : Value) : Prop := lowerName name = name ∧ v.isPlain = true

/-- A table of plain values. -/
inductive IsSection : Value → Prop where
  | table {cells : List (String × Value)} (h : Tabular IsCell cells) : IsSection (.table cells)

theorem IsSection.entries (h : IsSection v) : Tabular IsCell v.entries := by
  obtain ⟨h⟩ := h
  exact h

theorem isSection_empty : IsSection empty := .table tabular_nil

theorem isSection_insert (h : Tabular IsCell v.entries) (hnew : IsCell name new) :
    IsSection (v.insert name new) :=
  .table (h.insert hnew)

theorem isSection_putAll (hes : Tabular IsCell es) (h : IsSection target) :
    IsSection (putAll es target) := by
  induction es generalizing target with
  | nil => exact h
  | cons e es ih =>
    obtain ⟨-, hcell, hes⟩ := tabular_cons_iff.mp hes
    rw [putAll, hcell.1, put_of_isPlain hcell.2]
    exact ih hes (isSection_insert h.entries hcell)

/-- What the entries of a section do not say, is as before. -/
theorem get?_putAll (hes : Tabular IsCell es) (target : Value) (name : String) :
    (putAll es target).get? name = (es.lookup name).or (target.get? name) := by
  induction es generalizing target with
  | nil => rfl
  | cons e es ih =>
    obtain ⟨hfresh, hcell, hes⟩ := tabular_cons_iff.mp hes
    rw [putAll, hcell.1, put_of_isPlain hcell.2, ih hes, get?_insert, List.lookup_cons]
    by_cases h : name = e.1
    · rw [if_pos h, h, BEq.rfl, Entries.lookup_eq_none_of_not_mem hfresh]
      rfl
    · rw [if_neg h, beq_false_of_ne h]

/-! ## Sheets -/

/-- An entry of a sheet: a section, under a name that is in lower case and no path. -/
def IsSectionEntry (name : String) (v : Value) : Prop :=
  Path.ofText name = .name name ∧ lowerName name = name ∧ IsSection v

/-- A table of sections. -/
def IsSheet (v : Value) : Prop := Tabular IsSectionEntry v.entries

theorem isSheet_empty : IsSheet empty := tabular_nil

/-- Brings a section in. -/
theorem set_of_isSectionEntry (h : IsSectionEntry name v) :
    (Path.ofText name).set v root =
      root.insert name (putAll v.entries ((root.get? name).getD empty)) := by
  obtain ⟨hpath, hlower, ⟨hcells⟩⟩ := h
  rw [hpath, Path.set, hlower]
  rfl

theorem get?_getD_empty (root : Value) (outer inner : String) :
    ((root.get? outer).getD empty).get? inner = root.getIn? outer inner := by
  rw [getIn?]
  cases root.get? outer with
  | none => rfl
  | some v => rfl

theorem isSection_of_get? (h : IsSheet root) (name : String) :
    IsSection ((root.get? name).getD empty) := by
  cases hget : root.get? name with
  | none => exact isSection_empty
  | some v =>
    obtain ⟨front, back, hentries, -⟩ := List.lookup_eq_some_iff.mp hget
    have hmem : (name, v) ∈ root.entries := by
      rw [hentries]
      exact List.mem_append_right _ List.mem_cons_self
    exact (h.each _ hmem).2.2

theorem overlay_cons (e : String × Value) (es : List (String × Value)) (root : Value) :
    overlay (e :: es) root = overlay es ((Path.ofText e.1).set e.2 root) := rfl

/-- What is brought into a sheet makes a sheet. -/
theorem isSheet_overlay (hes : Tabular IsSectionEntry es) (h : IsSheet root) :
    IsSheet (overlay es root) := by
  induction es generalizing root with
  | nil => exact h
  | cons e es ih =>
    obtain ⟨-, he, hes⟩ := tabular_cons_iff.mp hes
    rw [overlay_cons, set_of_isSectionEntry he]
    have hsection := isSection_putAll he.2.2.entries (isSection_of_get? h e.1)
    exact ih hes (h.insert ⟨he.1, he.2.1, hsection⟩)

/-- **At each place stands what the sheet says, or else what has stood there before.** -/
theorem getIn?_overlay (hes : Tabular IsSectionEntry es) (root : Value) (outer inner : String) :
    (overlay es root).getIn? outer inner =
      ((table es).getIn? outer inner).or (root.getIn? outer inner) := by
  induction es generalizing root with
  | nil => rfl
  | cons e es ih =>
    obtain ⟨hfresh, he, hes⟩ := tabular_cons_iff.mp hes
    -- the first section decides for its own places, the others for all else
    have hfirst : (table (e :: es)).getIn? outer inner =
        if outer = e.1 then e.2.get? inner else (table es).getIn? outer inner := by
      show (List.lookup outer (e :: es)).bind _ = _
      rw [List.lookup_cons]
      by_cases h : outer = e.1
      · rw [if_pos h, h, BEq.rfl]
        rfl
      · rw [if_neg h, beq_false_of_ne h]
        rfl
    rw [overlay_cons, set_of_isSectionEntry he, ih hes, getIn?_insert,
      get?_putAll he.2.2.entries, get?_getD_empty, hfirst]
    by_cases h : outer = e.1
    · -- none of the others has the name of the first
      have hrest : (table es).getIn? outer inner = none := by
        show (List.lookup outer es).bind _ = none
        rw [Entries.lookup_eq_none_of_not_mem (h ▸ hfresh)]
        rfl
      rw [if_pos h, if_pos h, hrest, h]
      rfl
    · rw [if_neg h, if_neg h]

end PairQuote.Settings.Value
