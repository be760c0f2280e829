import PairQuote.Proofs.Settings.Layers

/-! # What a settings file says

A settings file gives scalars for some of the settings, each in its section: a `Sheet`.  The file is
read for its document (`Sheet.document`), a mapping of mappings, and each setting in it gets the
value that its scalar is (`value?_entries`).  But a decimal that cannot be read makes the file as a
whole unreadable (`fileEntries_of_not_readable`).  The only such decimals are the words for infinity
and the undefined number (`isSome_real?_iff`).
-/
namespace PairQuote.Yaml.Node

/-! ## Nodes that are the same -/

mutual

/-- Nodes are the same exactly if they are equal. -/
theorem eq_of_same : ∀ {a b : Node}, same a b = true → a = b
  | .invalid, .invalid, _ => rfl
  | .null, .null, _ => rfl
  | .bool _, .bool _, h => congrArg bool (beq_iff_eq.mp h)
  | .int _, .int _, h => congrArg int (beq_iff_eq.mp h)
  | .real _, .real _, h => congrArg real (beq_iff_eq.mp h)
  | .text _, .text _, h => congrArg text (beq_iff_eq.mp h)
  | .sequence _, .sequence _, h => congrArg sequence (eq_of_sameItems h)
  | .mapping _, .mapping _, h => congrArg mapping (eq_of_sameEntries h)

theorem eq_of_sameItems : ∀ {as bs : List Node}, sameItems as bs = true → as = bs
  | [], [], _ => rfl
  | _ :: _, _ :: _, h =>
    have ⟨hfirst, hrest⟩ := Bool.and_eq_true_iff.mp h
    List.cons_eq_cons.mpr ⟨eq_of_same hfirst, eq_of_sameItems hrest⟩

theorem eq_of_sameEntries : ∀ {as bs : List (Node × Node)}, sameEntries as bs = true → as = bs
  | [], [], _ => rfl
  | (_, _) :: _, (_, _) :: _, h =>
    have ⟨hfirst, hrest⟩ := Bool.and_eq_true_iff.mp h
    have ⟨hkey, hvalue⟩ := Bool.and_eq_true_iff.mp hfirst
    List.cons_eq_cons.mpr
      ⟨Prod.ext (eq_of_same hkey) (eq_of_same hvalue), eq_of_sameEntries hrest⟩

end

/-- The document of a text is a node if the node in it is the same. -/
theorem document?_of_same {source : String} {node : Node}
    (h : ((document? source).bind id).any (same node) = true) :
    document? source = some (some node) := by
  cases hdocument : document? source with
  | none =>
    rw [hdocument] at h
    cases h
  | some root =>
    cases root with
    | none =>
      rw [hdocument] at h
      cases h
    | some root =>
      rw [hdocument] at h
      rw [eq_of_same (a := node) (b := root) h]

end PairQuote.Yaml.Node

namespace PairQuote.Settings

open Yaml (Node)
open Value (IsCell IsSectionEntry Tabular lastOfEach ofNode ofEntries)

variable {α : Type} {es : List (String × Value)} {name : String} {node : Node}

/-! ## Entries of which the last counts -/

theorem mem_of_mem_lastOfEach {e : String × Value} (h : e ∈ lastOfEach es) : e ∈ es := by
  induction es with
  | nil => exact h
  | cons first es ih =>
    rw [lastOfEach] at h
    split at h
    · exact List.mem_cons_of_mem _ (ih h)
    · rcases List.mem_cons.mp h with rfl | h
      · exact List.mem_cons_self
      · exact List.mem_cons_of_mem _ (ih h)

theorem mem_names_of_lastOfEach (h : name ∈ (lastOfEach es).map (·.1)) : name ∈ es.map (·.1) := by
  obtain ⟨e, he, rfl⟩ := List.mem_map.mp h
  exact List.mem_map_of_mem (mem_of_mem_lastOfEach he)

theorem nodup_lastOfEach (es : List (String × Value)) :
    ((lastOfEach es).map (·.1)).Nodup := by
  induction es with
  | nil => exact List.nodup_nil
  | cons first es ih =>
    rw [lastOfEach]
    split
    · exact ih
    · next hlast =>
      have hfresh : first.1 ∉ es.map (·.1) := fun hmem => hlast (List.contains_iff_mem.mpr hmem)
      exact List.nodup_cons.mpr ⟨fun hmem => hfresh (mem_names_of_lastOfEach hmem), ih⟩

/-- The last of the entries with a name is found under it. -/
theorem lookup_lastOfEach (es : List (String × Value)) (name : String) :
    (lastOfEach es).lookup name = es.reverse.lookup name := by
  induction es with
  | nil => rfl
  | cons first es ih =>
    obtain ⟨other, v⟩ := first
    rw [List.reverse_cons, List.lookup_append, ← ih, lastOfEach]
    by_cases hname : name = other
    · subst hname
      rw [List.lookup_cons_self]
      by_cases hlater : (es.map (·.1)).contains name = true
      · rw [if_pos hlater]
        cases hfound : (lastOfEach es).lookup name with
        | some w => rfl
        | none =>
          -- a later entry of the name is found from behind
          obtain ⟨e, he, rfl⟩ := List.mem_map.mp (List.contains_iff_mem.mp hlater)
          rw [ih, List.lookup_eq_none_iff] at hfound
          exact absurd (hfound e (List.mem_reverse.mpr he)) (by simp)
      · have hfresh : name ∉ (lastOfEach es).map (·.1) :=
          fun hmem => hlater (List.contains_iff_mem.mpr (mem_names_of_lastOfEach hmem))
        rw [if_neg hlater, List.lookup_cons_self, Entries.lookup_eq_none_of_not_mem hfresh]
        rfl
    · have hnone : [(other, v)].lookup name = none := by
        rw [List.lookup_cons, beq_false_of_ne hname, List.lookup_nil]
      rw [hnone, Option.or_none]
      split
      · rfl
      · rw [List.lookup_cons, beq_false_of_ne hname]

/-! ## Mappings -/

/-- A mapping is read if all its values are. -/
theorem ofEntries_eq_ok (node : α → Node) (value : α → Value) {items : List (String × α)}
    (h : ∀ e ∈ items, ofNode (node e.2) = .ok (value e.2)) :
    ofEntries (items.map fun e => (.text e.1, node e.2)) =
      .ok (items.map fun e => (e.1, value e.2)) := by
  induction items with
  | nil => rfl
  | cons first items ih =>
    obtain ⟨hfirst, hrest⟩ := List.forall_mem_cons.mp h
    rw [List.map_cons, ofEntries, hfirst, ih hrest]
    rfl

/-- A mapping cannot be read if one of its values cannot. -/
theorem ofEntries_eq_error (node : α → Node) {items : List (String × α)}
    (h : ∀ e ∈ items, (∃ v, ofNode (node e.2) = .ok v) ∨ ofNode (node e.2) = .error .unreadable)
    (hbad : ∃ e ∈ items, ofNode (node e.2) = .error .unreadable) :
    ofEntries (items.map fun e => (.text e.1, node e.2)) = .error .unreadable := by
  induction items with
  | nil =>
    obtain ⟨e, he, -⟩ := hbad
    cases he
  | cons first items ih =>
    obtain ⟨hfirst, hrest⟩ := List.forall_mem_cons.mp h
    rw [List.map_cons, ofEntries]
    rcases hfirst with ⟨v, hv⟩ | hfirst
    · obtain ⟨e, he, hbad⟩ := hbad
      rcases List.mem_cons.mp he with rfl | he
      · rw [hv] at hbad
        cases hbad
      · rw [hv, ih hrest ⟨e, he, hbad⟩]
        rfl
    · rw [hfirst]
      rfl

/-! ## Scalars -/

/-- Whether a node holds no others. -/
def isScalar : Node → Bool
  | .sequence _ => false
  | .mapping _ => false
  | _ => true

/-- Whether a node is no decimal that cannot be read. -/
def isReadable : Node → Bool
  | .real word => (real? word.toList).isSome
  | _ => true

/-- The value that a node is. -/
def nodeValue (node : Node) : Value :=
  match ofNode node with
  | .ok v => v
  | .error _ => .null

theorem ofNode_of_isReadable (hscalar : isScalar node = true) (h : isReadable node = true) :
    ofNode node = .ok (nodeValue node) ∧ (nodeValue node).isPlain = true := by
  cases node with
  | sequence items => cases hscalar
  | mapping entries => cases hscalar
  | real word =>
    obtain ⟨x, hx⟩ := Option.isSome_iff_exists.mp h
    have hread : ofNode (.real word) = .ok (.real x) := by rw [ofNode, hx]
    rw [nodeValue, hread]
    exact ⟨rfl, rfl⟩
  | _ => exact ⟨rfl, rfl⟩

theorem ofNode_of_not_isReadable (h : ¬isReadable node = true) :
    ofNode node = .error .unreadable := by
  cases node with
  | real word => rw [ofNode, Option.not_isSome_iff_eq_none.mp h]
  | _ => exact absurd rfl h

/-- Of the decimals only the words for infinity and the undefined number cannot be read. -/
theorem isSome_real?_iff {word : String} (h : Node.isReal word = true) :
    (real? word.toList).isSome = true ↔ ¬Node.isNumberWord word = true := by
  by_cases hword : Node.isNumberWord word = true
  · have hall : ∀ word ∈ [".inf", ".Inf", ".INF", "+.inf", "+.Inf", "+.INF", "-.inf", "-.Inf",
        "-.INF", ".nan", ".NaN", ".NAN"], (real? word.toList).isSome = false := by decide +kernel
    simp [hword, hall word (List.contains_iff_mem.mp hword)]
  · rw [Node.isReal, Bool.or_eq_true, Bool.and_eq_true] at h
    rcases h with h | ⟨-, h⟩
    · exact absurd h hword
    · rw [real?, Option.isSome_map, h]
      simp [hword]

/-! ## Sheets -/

/-- The settings in a file, by their sections. -/
abbrev Sheet := List (String × List (String × Node))

namespace Sheet

variable {sheet : Sheet}

/-- A sheet has scalars for settings and nothing else. -/
structure GivesScalars (sheet : Sheet) : Prop where
  sections : ∀ s ∈ sheet, ∃ k ∈ Key.all, s.1 = k.sectionName
  settings : ∀ s ∈ sheet, ∀ f ∈ s.2, ∃ k ∈ Key.all, s.1 = k.sectionName ∧ f.1 = k.name
  scalars : ∀ s ∈ sheet, ∀ f ∈ s.2, isScalar f.2 = true

/-- All scalars can be read. -/
def Readable (sheet : Sheet) : Prop := ∀ s ∈ sheet, ∀ f ∈ s.2, isReadable f.2 = true

instance (sheet : Sheet) : Decidable sheet.Readable :=
  inferInstanceAs (Decidable (∀ s ∈ sheet, ∀ f ∈ s.2, isReadable f.2 = true))

/-- The scalar of a setting; a later one of the same name takes the place of an earlier one. -/
def node? (sheet : Sheet) (k : Key) : Option Node :=
  (sheet.reverse.lookup k.sectionName).bind fun fields => fields.reverse.lookup k.name

/-- What a sheet says of a setting. -/
def value? (sheet : Sheet) (k : Key) : Option Value := (sheet.node? k).map nodeValue

/-- The node of a section. -/
def sectionNode (fields : List (String × Node)) : Node :=
  .mapping (fields.map fun f => (.text f.1, f.2))

/-- The document of a file with these settings. -/
def document (sheet : Sheet) : Node :=
  .mapping (sheet.map fun s => (.text s.1, sectionNode s.2))

/-- The table of a section. -/
def sectionValue (fields : List (String × Node)) : Value :=
  .table (lastOfEach (fields.map fun f => (f.1, nodeValue f.2)))

/-- The entries of the table that the document is. -/
def entries (sheet : Sheet) : List (String × Value) :=
  lastOfEach (sheet.map fun s => (s.1, sectionValue s.2))

theorem tabular_entries (hgives : sheet.GivesScalars) (hread : sheet.Readable) :
    Tabular IsSectionEntry sheet.entries where
  names := nodup_lastOfEach _
  each e he := by
    obtain ⟨s, hs, rfl⟩ := List.mem_map.mp (mem_of_mem_lastOfEach he)
    obtain ⟨k, -, hk⟩ := hgives.sections s hs
    refine ⟨hk ▸ k.ofText_sectionName, hk ▸ k.lowerName_place.1, .table ⟨nodup_lastOfEach _, ?_⟩⟩
    intro e he
    obtain ⟨f, hf, rfl⟩ := List.mem_map.mp (mem_of_mem_lastOfEach he)
    obtain ⟨k, -, -, hk⟩ := hgives.settings s hs f hf
    exact ⟨hk ▸ k.lowerName_place.2,
      (ofNode_of_isReadable (hgives.scalars s hs f hf) (hread s hs f hf)).2⟩

/-- **Each setting has the value that its scalar is.** -/
theorem value?_entries (sheet : Sheet) (k : Key) :
    k.value? (.table sheet.entries) = sheet.value? k := by
  have hsection : sheet.entries.lookup k.sectionName =
      (sheet.reverse.lookup k.sectionName).map sectionValue := by
    rw [entries, lookup_lastOfEach, ← List.map_reverse, Entries.lookup_map_snd]
  have hrow : ∀ fields : List (String × Node),
      (sectionValue fields).get? k.name = (fields.reverse.lookup k.name).map nodeValue := by
    intro fields
    rw [← Entries.lookup_map_snd, List.map_reverse]
    exact lookup_lastOfEach _ _
  show (sheet.entries.lookup k.sectionName).bind (·.get? k.name) = _
  rw [hsection, value?, node?]
  cases sheet.reverse.lookup k.sectionName with
  | none => rfl
  | some fields => exact hrow fields

theorem ofNode_sectionNode {fields : List (String × Node)}
    (hscalars : ∀ f ∈ fields, isScalar f.2 = true)
    (hread : ∀ f ∈ fields, isReadable f.2 = true) :
    ofNode (sectionNode fields) = .ok (sectionValue fields) := by
  have hfields := ofEntries_eq_ok (fun node => node) nodeValue
    fun f hf => (ofNode_of_isReadable (hscalars f hf) (hread f hf)).1
  rw [sectionNode, ofNode, hfields]
  rfl

theorem ofNode_document (hgives : sheet.GivesScalars) (hread : sheet.Readable) :
    ofNode sheet.document = .ok (.table sheet.entries) := by
  have hsections := ofEntries_eq_ok sectionNode sectionValue fun s hs =>
    ofNode_sectionNode (hgives.scalars s hs) (hread s hs)
  rw [document, ofNode, hsections]
  rfl

theorem ofNode_sectionNode_of_not_readable {fields : List (String × Node)}
    (hscalars : ∀ f ∈ fields, isScalar f.2 = true)
    (hbad : ∃ f ∈ fields, ¬isReadable f.2 = true) :
    ofNode (sectionNode fields) = .error .unreadable := by
  obtain ⟨bad, hmem, hbad⟩ := hbad
  have hfields : ofEntries (fields.map fun f => (.text f.1, f.2)) = .error .unreadable := by
    refine ofEntries_eq_error (fun node => node) (fun f hf => ?_)
      ⟨bad, hmem, ofNode_of_not_isReadable hbad⟩
    by_cases hread : isReadable f.2 = true
    · exact .inl ⟨_, (ofNode_of_isReadable (hscalars f hf) hread).1⟩
    · exact .inr (ofNode_of_not_isReadable hread)
  rw [sectionNode, ofNode, hfields]

theorem ofNode_document_of_not_readable (hgives : sheet.GivesScalars)
    (hread : ¬sheet.Readable) : ofNode sheet.document = .error .unreadable := by
  have hsection : ∀ s ∈ sheet, (∀ f ∈ s.2, isReadable f.2 = true) ∨
      ofNode (sectionNode s.2) = .error .unreadable := by
    intro s hs
    by_cases h : ∀ f ∈ s.2, isReadable f.2 = true
    · exact .inl h
    · exact .inr (ofNode_sectionNode_of_not_readable (hgives.scalars s hs) (by simpa using h))
  have hsections : ofEntries (sheet.map fun s => (.text s.1, sectionNode s.2)) =
      .error .unreadable := by
    refine ofEntries_eq_error sectionNode (fun s hs => ?_) ?_
    · exact (hsection s hs).imp_left fun h => ⟨_, ofNode_sectionNode (hgives.scalars s hs) h⟩
    · by_contra hnone
      refine hread fun s hs => (hsection s hs).resolve_right fun hbad => ?_
      exact hnone ⟨s, hs, hbad⟩
  rw [document, ofNode, hsections]

end Sheet

/-! ## Files -/

/-- What the settings file of a path gives, if it is one of scalars in YAML. -/
inductive FileGives (files : Files) (path : String) : Sheet → Prop where
  /-- There is no file. -/
  | missing (hfile : files.find? path = none) : FileGives files path []
  /-- There is nothing in the file but blanks and comments. -/
  | blank {source : String} (hfile : files.find? path = some (.yaml, source))
      (hdocument : Yaml.document? source = some none) : FileGives files path []
  | given {source : String} {sheet : Sheet} (hfile : files.find? path = some (.yaml, source))
      (hdocument : Yaml.document? source = some (some sheet.document))
      (hgives : sheet.GivesScalars) : FileGives files path sheet

namespace FileGives

variable {files : Files} {path : String} {sheet : Sheet}

/-- A file gives a sheet if the node that its text is read for is the same as the document. -/
theorem of_same (source : String) (hfile : files.find? path = some (.yaml, source))
    (hsame : ((Yaml.document? source).bind id).any (Node.same sheet.document) = true)
    (hgives : sheet.GivesScalars) : FileGives files path sheet :=
  .given hfile (Node.document?_of_same hsame) hgives

/-- A file whose scalars can all be read says for each setting what its scalar is. -/
theorem fileEntries_of_readable (h : FileGives files path sheet) (hread : sheet.Readable) :
    ∃ file, fileEntries files path = .ok file ∧ Tabular IsSectionEntry file ∧
      ∀ k : Key, k.value? (.table file) = sheet.value? k := by
  cases h with
  | missing hfile =>
    refine ⟨[], ?_, Value.tabular_nil, fun k => rfl⟩
    rw [fileEntries, hfile]
  | blank hfile hdocument =>
    refine ⟨[], ?_, Value.tabular_nil, fun k => rfl⟩
    rw [fileEntries, hfile]
    dsimp only
    rw [Format.read, hdocument]
  | given hfile hdocument hgives =>
    refine ⟨sheet.entries, ?_, Sheet.tabular_entries hgives hread, Sheet.value?_entries sheet⟩
    rw [fileEntries, hfile]
    dsimp only
    rw [Format.read, hdocument]
    dsimp only
    rw [Sheet.ofNode_document hgives hread]

/-- One scalar that cannot be read makes the whole file unreadable. -/
theorem fileEntries_of_not_readable (h : FileGives files path sheet) (hread : ¬sheet.Readable) :
    fileEntries files path = .error .unreadable := by
  cases h with
  | missing hfile => exact absurd (fun s hs => nomatch hs) hread
  | blank hfile hdocument => exact absurd (fun s hs => nomatch hs) hread
  | given hfile hdocument hgives =>
    rw [fileEntries, hfile]
    dsimp only
    rw [Format.read, hdocument]
    dsimp only
    rw [Sheet.ofNode_document_of_not_readable hgives hread]

end FileGives

end PairQuote.Settings
