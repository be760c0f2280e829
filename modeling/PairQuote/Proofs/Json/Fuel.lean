import Mathlib.Data.List.TakeWhile
import PairQuote.Json.Reader

/-! # Reading JSON with fuel to spare

The reader of values is given fuel, one unit for each nested call.  Every part that is read
takes up at least one character (`Shortens`), and between two calls on the same row there is
one on a shorter row.  So fuel for twice the length of a row is enough, and more of it changes
nothing: what is read depends on the row and the depth alone (`readValue_of_le`).
-/
namespace PairQuote.Json

variable {α : Type} {row rest : List Char} {c : Char} {fuel depth : Nat}

/-! ## What is read takes up characters -/

/-- Whatever is read, the row after it is shorter. -/
def Shortens (read : List Char → Option (α × List Char)) : Prop :=
  ∀ {row rest : List Char} {a : α}, read row = some (a, rest) → rest.length < row.length

theorem length_skipBlanks_le (row : List Char) : (skipBlanks row).length ≤ row.length :=
  (List.dropWhile_suffix isBlank).length_le

theorem length_of_skipBlanks (h : skipBlanks row = c :: rest) : rest.length < row.length := by
  have hle := length_skipBlanks_le row
  rw [h, List.length_cons] at hle
  omega

theorem shortens_after? {word : List Char} (hword : 0 < word.length) :
    ∀ {row rest : List Char}, after? word row = some rest → rest.length < row.length := by
  intro row rest h
  unfold after? at h
  split at h
  · next hprefix =>
    obtain rfl := Option.some.inj h
    have hle := (List.isPrefixOf_iff_prefix.mp hprefix).length_le
    rw [List.length_drop]
    omega
  · cases h

theorem shortens_readString : Shortens readString := by
  intro row rest text h
  fun_induction readString row generalizing text with
  | case1 => cases h
  | case2 row =>
    cases h
    rw [List.length_cons]
    omega
  | case3 a b c d row ihLow ih =>
    obtain ⟨unit, -, h⟩ := Option.bind_eq_some_iff.mp h
    simp only [List.length_cons]
    split at h
    · cases h
    · split at h
      · -- the second half of a pair has to follow
        split at h
        · next row =>
          obtain ⟨low, -, h⟩ := Option.bind_eq_some_iff.mp h
          split at h
          · obtain ⟨⟨more, left⟩, hmore, h⟩ := Option.bind_eq_some_iff.mp h
            cases h
            have hshorter := ihLow hmore
            simp only [List.length_cons]
            omega
          · cases h
        · cases h
      · obtain ⟨⟨more, left⟩, hmore, h⟩ := Option.bind_eq_some_iff.mp h
        cases h
        have hshorter := ih hmore
        omega
  | case4 c row _ ih =>
    obtain ⟨meant, -, h⟩ := Option.bind_eq_some_iff.mp h
    obtain ⟨⟨more, left⟩, hmore, h⟩ := Option.bind_eq_some_iff.mp h
    cases h
    have hshorter := ih hmore
    simp only [List.length_cons]
    omega
  | case5 => cases h
  | case6 c row _ _ _ _ ih =>
    obtain ⟨⟨more, left⟩, hmore, h⟩ := Option.bind_eq_some_iff.mp h
    cases h
    have hshorter := ih hmore
    simp only [List.length_cons]
    omega

theorem length_readExponent_le {e : Int} (h : readExponent row = some (e, rest)) :
    rest.length ≤ row.length := by
  have hread : ∀ {negative : Bool} {places : List Char},
      (if (places.takeWhile (·.isDigit)).isEmpty then none
        else some ((if negative then
            -((Text.valueOf? 10 (places.takeWhile (·.isDigit))).getD 0 : Int)
          else ((Text.valueOf? 10 (places.takeWhile (·.isDigit))).getD 0 : Int)),
          places.drop (places.takeWhile (·.isDigit)).length)) = some (e, rest) →
        rest.length ≤ places.length := by
    intro negative places h
    split at h
    · cases h
    · cases h
      rw [List.length_drop]
      omega
  unfold readExponent at h
  dsimp only at h
  split at h
  · exact Nat.le_succ_of_le (hread h)
  · exact Nat.le_succ_of_le (hread h)
  · exact hread h

theorem length_finishReal_le {negative : Bool} {kept : Nat} {exponent : Int} {value : Json}
    (h : finishReal negative kept exponent row = some (value, rest)) :
    rest.length ≤ row.length := by
  unfold finishReal at h
  split at h
  · next c more =>
    split at h
    · obtain ⟨⟨e, left⟩, he, h⟩ := Option.bind_eq_some_iff.mp h
      obtain ⟨x, -, h⟩ := Option.map_eq_some_iff.mp h
      cases h
      exact Nat.le_succ_of_le (length_readExponent_le he)
    · obtain ⟨x, -, h⟩ := Option.map_eq_some_iff.mp h
      cases h
      exact Nat.le_refl _
  · obtain ⟨x, -, h⟩ := Option.map_eq_some_iff.mp h
    cases h
    exact Nat.le_refl _

/-- A number has a digit at least. -/
theorem shortens_readNumber (negative : Bool) : Shortens (readNumber negative) := by
  intro row rest value h
  unfold readNumber at h
  dsimp only at h
  split at h
  · cases h
  · next hwhole =>
    have hleft : (row.drop (row.takeWhile (·.isDigit)).length).length < row.length := by
      have hpos : 0 < (row.takeWhile (·.isDigit)).length := by
        rw [List.length_pos_iff]
        intro hnone
        exact hwhole (.inl (List.isEmpty_iff.mpr hnone))
      have hle := (List.takeWhile_prefix (l := row) (·.isDigit)).length_le
      rw [List.length_drop]
      omega
    generalize row.drop (row.takeWhile (·.isDigit)).length = left at h hleft
    split at h
    · next more =>
      split at h
      · cases h
      · have hfinish := length_finishReal_le h
        rw [List.length_drop] at hfinish
        rw [List.length_cons] at hleft
        omega
    · next d more =>
      split at h
      · exact Nat.lt_of_le_of_lt (length_finishReal_le h) hleft
      · cases h
        exact hleft
    · split at h
      · exact Nat.lt_of_le_of_lt (length_finishReal_le h) hleft
      · cases h
        exact hleft

/-! ### Values -/

theorem shortens_readValue (hitems : ∀ depth, Shortens (readItems fuel depth))
    (hmembers : ∀ depth, Shortens (readMembers fuel depth)) (depth : Nat) :
    Shortens (readValue (fuel + 1) depth) := by
  intro row rest value h
  rw [readValue] at h
  split at h
  · next more hrow =>
    have hmore := length_of_skipBlanks hrow
    obtain ⟨⟨text, left⟩, hread, h⟩ := Option.map_eq_some_iff.mp h
    cases h
    have hshorter := shortens_readString hread
    omega
  · next more hrow =>
    have hmore := length_of_skipBlanks hrow
    split at h
    · cases h
    · split at h
      · next hclose =>
        cases h
        have hshorter := length_of_skipBlanks hclose
        omega
      · obtain ⟨⟨items, left⟩, hread, h⟩ := Option.map_eq_some_iff.mp h
        cases h
        have hshorter := hitems _ hread
        have hblanks := length_skipBlanks_le more
        omega
  · next more hrow =>
    have hmore := length_of_skipBlanks hrow
    split at h
    · cases h
    · split at h
      · next hclose =>
        cases h
        have hshorter := length_of_skipBlanks hclose
        omega
      · obtain ⟨⟨members, left⟩, hread, h⟩ := Option.map_eq_some_iff.mp h
        cases h
        have hshorter := hmembers _ hread
        have hblanks := length_skipBlanks_le more
        omega
  · next more hrow =>
    have hmore := length_of_skipBlanks hrow
    have hshorter := shortens_readNumber _ h
    omega
  · have hblanks := length_skipBlanks_le row
    split at h
    · have hshorter := shortens_readNumber _ h
      omega
    · have hword : ∀ {word : List Char} {meant : Json}, 0 < word.length →
          (after? word (skipBlanks row)).map ((meant, ·)) = some (value, rest) →
            rest.length < row.length := by
        intro word meant hpos hread
        obtain ⟨left, hread, hpair⟩ := Option.map_eq_some_iff.mp hread
        cases hpair
        have hshorter := shortens_after? hpos hread
        omega
      rcases Option.or_eq_some_iff.mp h with h | ⟨-, h⟩
      · exact hword (by decide) h
      · rcases Option.or_eq_some_iff.mp h with h | ⟨-, h⟩
        · exact hword (by decide) h
        · exact hword (by decide) h

theorem shortens_readItems (hvalue : Shortens (readValue fuel depth))
    (hitems : Shortens (readItems fuel depth)) : Shortens (readItems (fuel + 1) depth) := by
  intro row rest items h
  rw [readItems] at h
  obtain ⟨⟨item, left⟩, hitem, h⟩ := Option.bind_eq_some_iff.mp h
  have hleft := hvalue hitem
  dsimp only at h
  split at h
  · next more hrow =>
    obtain ⟨⟨others, left'⟩, hothers, h⟩ := Option.bind_eq_some_iff.mp h
    cases h
    have hmore := length_of_skipBlanks hrow
    have hshorter := hitems hothers
    dsimp only
    omega
  · next hrow =>
    cases h
    have hmore := length_of_skipBlanks hrow
    omega
  · cases h

theorem shortens_readMembers (hvalue : Shortens (readValue fuel depth))
    (hmembers : Shortens (readMembers fuel depth)) :
    Shortens (readMembers (fuel + 1) depth) := by
  intro row rest members h
  rw [readMembers] at h
  split at h
  · next more hrow =>
    have hmore := length_of_skipBlanks hrow
    obtain ⟨⟨name, named⟩, hname, h⟩ := Option.bind_eq_some_iff.mp h
    have hnamed := shortens_readString hname
    dsimp only at h
    split at h
    · next colon hcolon =>
      have hafter := length_of_skipBlanks hcolon
      obtain ⟨⟨value, left⟩, hread, h⟩ := Option.bind_eq_some_iff.mp h
      have hleft := hvalue hread
      dsimp only at h
      split at h
      · next comma hcomma =>
        have hnext := length_of_skipBlanks hcomma
        obtain ⟨⟨others, left'⟩, hothers, h⟩ := Option.bind_eq_some_iff.mp h
        cases h
        have hshorter := hmembers hothers
        dsimp only
        omega
      · next hclose =>
        cases h
        have hshorter := length_of_skipBlanks hclose
        omega
      · cases h
    · cases h
  · cases h

/-- What is read takes up at least one character, with any fuel. -/
theorem shortens_read (fuel : Nat) : ∀ depth, Shortens (readValue fuel depth) ∧
    Shortens (readItems fuel depth) ∧ Shortens (readMembers fuel depth) := by
  induction fuel with
  | zero => exact fun depth => ⟨nofun, nofun, nofun⟩
  | succ fuel ih =>
    intro depth
    obtain ⟨hvalue, hitems, hmembers⟩ := ih depth
    refine ⟨?_, shortens_readItems hvalue hitems, shortens_readMembers hvalue hmembers⟩
    exact shortens_readValue (fun depth => (ih depth).2.1) (fun depth => (ih depth).2.2) depth

/-! ## More fuel -/

/-- One more unit of fuel changes nothing for rows that there is enough for. -/
structure Ample (fuel : Nat) : Prop where
  value : ∀ {depth : Nat} {row : List Char}, 2 * row.length + 1 ≤ fuel →
    readValue (fuel + 1) depth row = readValue fuel depth row
  items : ∀ {depth : Nat} {row : List Char}, 2 * row.length + 2 ≤ fuel →
    readItems (fuel + 1) depth row = readItems fuel depth row
  members : ∀ {depth : Nat} {row : List Char}, 2 * row.length + 2 ≤ fuel →
    readMembers (fuel + 1) depth row = readMembers fuel depth row

theorem Ample.readValue_succ (ih : Ample fuel) (h : 2 * row.length + 1 ≤ fuel + 1) :
    readValue (fuel + 1 + 1) depth row = readValue (fuel + 1) depth row := by
  rw [readValue, readValue]
  split
  · rfl
  · next more hrow =>
    have hmore := length_of_skipBlanks hrow
    have hblanks := length_skipBlanks_le more
    split
    · rfl
    · split
      · rfl
      · rw [ih.items (by omega)]
  · next more hrow =>
    have hmore := length_of_skipBlanks hrow
    have hblanks := length_skipBlanks_le more
    split
    · rfl
    · split
      · rfl
      · rw [ih.members (by omega)]
  · rfl
  · rfl

theorem Ample.readItems_succ (ih : Ample fuel) (h : 2 * row.length + 2 ≤ fuel + 1) :
    readItems (fuel + 1 + 1) depth row = readItems (fuel + 1) depth row := by
  rw [readItems, readItems, ih.value (by omega)]
  refine Option.bind_congr ?_
  rintro ⟨item, left⟩ hitem
  have hleft := (shortens_read fuel depth).1 hitem
  dsimp only
  split
  · next more hrow =>
    have hmore := length_of_skipBlanks hrow
    rw [ih.items (by omega)]
  · rfl
  · rfl

theorem Ample.readMembers_succ (ih : Ample fuel) (h : 2 * row.length + 2 ≤ fuel + 1) :
    readMembers (fuel + 1 + 1) depth row = readMembers (fuel + 1) depth row := by
  rw [readMembers, readMembers]
  split
  · next more hrow =>
    have hmore := length_of_skipBlanks hrow
    refine Option.bind_congr ?_
    rintro ⟨name, named⟩ hname
    have hnamed := shortens_readString hname
    dsimp only
    split
    · next colon hcolon =>
      have hafter := length_of_skipBlanks hcolon
      rw [ih.value (by omega)]
      refine Option.bind_congr ?_
      rintro ⟨value, left⟩ hvalue
      have hleft := (shortens_read fuel depth).1 hvalue
      dsimp only
      split
      · next comma hcomma =>
        have hnext := length_of_skipBlanks hcomma
        rw [ih.members (by omega)]
      · rfl
      · rfl
    · rfl
  · rfl

theorem ample (fuel : Nat) : Ample fuel := by
  induction fuel with
  | zero =>
    constructor
    · intro depth row h
      omega
    · intro depth row h
      omega
    · intro depth row h
      omega
  | succ fuel ih =>
    exact ⟨fun h => ih.readValue_succ h, fun h => ih.readItems_succ h,
      fun h => ih.readMembers_succ h⟩

/-- **A value is read the same with any fuel that is enough.** -/
theorem readValue_of_le (h : 2 * row.length + 1 ≤ fuel) :
    readValue fuel depth row = readValue (2 * row.length + 1) depth row := by
  induction fuel, h using Nat.le_induction with
  | base => rfl
  | succ fuel h ih => rw [(ample fuel).value h, ih]

end PairQuote.Json
