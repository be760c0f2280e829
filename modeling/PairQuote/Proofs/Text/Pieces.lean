import Mathlib.Data.List.TakeWhile
import PairQuote.Text.Pieces

/-! # The core of a piece

What stands in front of the first separator is told by a row that has no separator and by
how such a row goes on (`cut_of_not_mem`, `cut_append`).  Blanks at its ends do not
matter once it is trimmed (`trim_between_blanks`).
-/
namespace PairQuote.Text

variable {sep : Char} {row before core after : List Char}

/-- A row without separators is in front of the first one as a whole. -/
theorem cut_of_not_mem (h : sep ∉ row) : cut sep row = (row, none) := by
  induction row with
  | nil => rfl
  | cons c row ih =>
    obtain ⟨hc, hrow⟩ := not_or.mp (mt List.mem_cons.mpr h)
    rw [cut, if_neg (Ne.symm hc), ih hrow]

/-- It is cut off at the separator that follows it. -/
theorem cut_append (h : sep ∉ row) (rest : List Char) :
    cut sep (row ++ sep :: rest) = (row, some rest) := by
  induction row with
  | nil => rw [List.nil_append, cut, if_pos rfl]
  | cons c row ih =>
    obtain ⟨hc, hrow⟩ := not_or.mp (mt List.mem_cons.mpr h)
    rw [List.cons_append, cut, if_neg (Ne.symm hc), ih hrow]

/-! ## Blanks -/

theorem trimLeft_append_of_blank (h : ∀ c ∈ before, isBlank c = true) :
    trimLeft (before ++ row) = trimLeft row :=
  List.dropWhile_append_of_pos h

theorem trimRight_append_of_blank (h : ∀ c ∈ after, isBlank c = true) :
    trimRight (row ++ after) = trimRight row := by
  unfold trimRight
  rw [List.reverse_append,
    List.dropWhile_append_of_pos fun c hc => h c (List.mem_reverse.mp hc)]

/-- **Blanks around a row are trimmed away.** -/
theorem trim_between_blanks (hbefore : ∀ c ∈ before, isBlank c = true)
    (hafter : ∀ c ∈ after, isBlank c = true) :
    trim (before ++ core ++ after) = trim core := by
  unfold trim
  rw [List.append_assoc, trimLeft_append_of_blank hbefore]
  by_cases hcore : ∀ c ∈ core, isBlank c = true
  · -- Nothing is left, with the blanks at the end or without them.
    have hall : ∀ c ∈ core ++ after, isBlank c = true := by
      intro c hc
      rcases List.mem_append.mp hc with hc | hc
      · exact hcore c hc
      · exact hafter c hc
    rw [trimLeft, trimLeft, List.dropWhile_eq_nil_iff.mpr hall,
      List.dropWhile_eq_nil_iff.mpr hcore]
  · have hleft : trimLeft (core ++ after) = trimLeft core ++ after := by
      unfold trimLeft
      rw [List.dropWhile_append, if_neg]
      rwa [List.isEmpty_iff, List.dropWhile_eq_nil_iff]
    rw [hleft, trimRight_append_of_blank hafter]

end PairQuote.Text
