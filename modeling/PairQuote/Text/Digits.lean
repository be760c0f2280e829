/-! # Numerals

Natural numbers as rows of digits, most significant first, in any base from two to
sixteen.  Three readings of one idea live here:

* `valueOf?` is the **value** of a row of digits, in either letter case;
* `digits` is the **shortest** row for a number, so zero is `0` and nothing else begins
  with a zero;
* `fixedDigits` is the row of a **given length**, for numbers held in a fixed width.

Rows are character lists, so that reading is a fold from the left and writing appends
on the right.
-/
namespace PairQuote.Text

/-- The value of a digit in base sixteen, in either case. -/
def hexValue? (c : Char) : Option Nat :=
  if '0' ≤ c ∧ c ≤ '9' then some (c.toNat - '0'.toNat)
  else if 'a' ≤ c ∧ c ≤ 'f' then some (c.toNat - 'a'.toNat + 10)
  else if 'A' ≤ c ∧ c ≤ 'F' then some (c.toNat - 'A'.toNat + 10)
  else none

/-- The value of a digit that base `base` has. -/
def digitValue? (base : Nat) (c : Char) : Option Nat :=
  (hexValue? c).filter (· < base)

/-- The digit of value `d`, in lower case. -/
def digitChar (d : Nat) : Char :=
  if d < 10 then Char.ofNat ('0'.toNat + d) else Char.ofNat ('a'.toNat + (d - 10))

/-- The number a row of digits stands for; nothing if some character is no digit of the
base.  The empty row stands for zero. -/
def valueOf? (base : Nat) (row : List Char) : Option Nat :=
  row.foldlM (fun n c => (digitValue? base c).map (n * base + ·)) 0

/-- The shortest row of digits for `n`. -/
def digits (base : Nat) (n : Nat) : List Char :=
  if h : 2 ≤ base ∧ base ≤ n then
    have : n / base < n := Nat.div_lt_self (by omega) (by omega)
    digits base (n / base) ++ [digitChar (n % base)]
  else [digitChar n]

/-- The last `width` digits of `n`, with zeros in front where it has fewer. -/
def fixedDigits (base : Nat) : (width : Nat) → Nat → List Char
  | 0, _ => []
  | width + 1, n => fixedDigits base width (n / base) ++ [digitChar (n % base)]

@[simp] theorem valueOf?_nil (base : Nat) : valueOf? base [] = some 0 := rfl

/-- The last digit of a row adds to the value of the digits before it. -/
theorem valueOf?_concat (base : Nat) (row : List Char) (c : Char) :
    valueOf? base (row ++ [c]) =
      (valueOf? base row).bind fun n => (digitValue? base c).map (n * base + ·) := by
  simp [valueOf?, List.foldlM_append]

@[simp] theorem length_fixedDigits (base width n : Nat) :
    (fixedDigits base width n).length = width := by
  induction width generalizing n with
  | zero => rfl
  | succ width ih => simp [fixedDigits, ih]

/-- The plain decimal text of a number. -/
def decimal (n : Nat) : String := String.ofList (digits 10 n)

/-- The number a non-empty row of decimal digits stands for. -/
def ofDecimal? (text : String) : Option Nat :=
  if text.isEmpty then none else valueOf? 10 text.toList

/-- A minimal `0x` numeral. -/
def hexText (n : Nat) : String := "0x" ++ String.ofList (digits 16 n)

end PairQuote.Text
