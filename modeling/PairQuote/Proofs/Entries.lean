import Mathlib.Data.List.Basic

/-! # Entries under names

What is found under a name in a row of entries, where the first entry of a name counts: after an
entry was put in front, after those of a name were taken out, and after all values were changed.
-/
namespace PairQuote.Entries

variable {κ α β : Type} [DecidableEq κ]

theorem lookup_cons_if (name other : κ) (a : α) (es : List (κ × α)) :
    ((name, a) :: es).lookup other = if name = other then some a else es.lookup other := by
  by_cases h : name = other
  · rw [h, List.lookup_cons_self, if_pos rfl]
  · rw [List.lookup_cons, beq_false_of_ne (Ne.symm h), if_neg h]

/-- Nothing is found under a name that was taken out, and under any other what was there. -/
theorem lookup_filter_ne (name other : κ) (es : List (κ × α)) :
    (es.filter (·.1 ≠ name)).lookup other = if name = other then none else es.lookup other := by
  induction es with
  | nil => split <;> rfl
  | cons e es ih =>
    obtain ⟨first, a⟩ := e
    rw [lookup_cons_if]
    by_cases hfirst : first = name
    · rw [List.filter_cons_of_neg (by simpa using hfirst), ih, hfirst]
      split <;> rfl
    · rw [List.filter_cons_of_pos (by simpa using hfirst), lookup_cons_if, ih]
      by_cases hother : first = other
      · rw [if_pos hother, if_pos hother, if_neg fun h => hfirst (hother.trans h.symm)]
      · rw [if_neg hother, if_neg hother]

theorem lookup_map_snd (f : α → β) (es : List (κ × α)) (name : κ) :
    (es.map fun e => (e.1, f e.2)).lookup name = (es.lookup name).map f := by
  induction es with
  | nil => rfl
  | cons e es ih =>
    rw [List.map_cons, List.lookup_cons, List.lookup_cons, ih]
    cases name == e.1 with
    | true => rfl
    | false => rfl

theorem lookup_eq_none_of_not_mem {name : κ} {es : List (κ × α)} (h : name ∉ es.map (·.1)) :
    es.lookup name = none := by
  rw [List.lookup_eq_none_iff]
  intro e he
  simp only [bne_iff_ne]
  rintro rfl
  exact h (List.mem_map_of_mem he)

end PairQuote.Entries
