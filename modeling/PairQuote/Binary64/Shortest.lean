import PairQuote.Binary64
import PairQuote.Text.Digits

/-! # The shortest decimal that reads back

Among the decimals that round to a given binary number, `shortest` finds one with the
fewest digits and, of those, the nearest.  The reals that round to `m · 2 ^ e` form an
interval, whose ends belong to it exactly when `m` is even; on the grid of multiples of
`10 ^ k` the only candidates are the two neighbours of the number, so it is enough to try
the grids one after the other, from the coarsest.

The **text** is positional: no exponent, no point without a fraction, `-0` for the
negative zero.
-/
namespace PairQuote.Binary64

/-- The interval of reals that round to one number, as multiples of one unit, and the
number itself: all in naturals over `unit`. -/
structure Interval where
  low : Nat
  value : Nat
  high : Nat
  unit : Nat
  closed : Bool

namespace Interval

/-- The interval of `m · 2 ^ e`.  The gap below a power of two is half as wide. -/
def of (m : Nat) (e : Int) : Interval :=
  let (a, b) := ratio 1 e
  let below := if m = fullMantissa ∧ e ≠ minExponent then 1 else 2
  { low := (4 * m - below) * a, value := 4 * m * a, high := (4 * m + 2) * a,
    unit := 4 * b, closed := m % 2 = 0 }

/-- Whether `n / d` lies in the interval. -/
def contains (i : Interval) (n d : Nat) : Bool :=
  let x := n * i.unit
  if i.closed then decide (i.low * d ≤ x) && decide (x ≤ i.high * d)
  else decide (i.low * d < x) && decide (x < i.high * d)

end Interval

/-- `10 ^ k` as a ratio. -/
def power10 (k : Int) : Nat × Nat :=
  if 0 ≤ k then (Nat.pow 10 k.toNat, 1) else (1, Nat.pow 10 (-k).toNat)

/-- The multiple of `10 ^ k` chosen for an interval, if one of the two neighbours of the
number lies in it: the nearer, of two equally near the greater. -/
def onGrid? (i : Interval) (k : Int) : Option Nat :=
  let (p, q) := power10 k
  -- the number is `value / unit`, the grid step `p / q`
  let below := i.value * q / (i.unit * p)
  let above := below + 1
  let lowFits := decide (0 < below) && i.contains (below * p) q
  let highFits := i.contains (above * p) q
  let nearer := 2 * (i.value * q - below * (i.unit * p)) < i.unit * p
  match lowFits, highFits with
  | true, true => some (if nearer then below else above)
  | true, false => some below
  | false, true => some above
  | false, false => none

/-- The first grid with a choice, of `count` grids downward from `10 ^ k`. -/
def firstGrid (i : Interval) : (count : Nat) → (k : Int) → Nat × Int
  | 0, k => (i.value / i.unit, k)
  | count + 1, k =>
    match onGrid? i k with
    | some c => (c, k)
    | none => firstGrid i count (k - 1)

/-- An exponent of ten at or just above the size of `m · 2 ^ e`. -/
def decimalSize (m : Nat) (e : Int) : Int :=
  let (a, b) := ratio m e
  ((Nat.log2 a : Int) - (Nat.log2 b : Int)) * 30103 / 100000 + 1

/-- The shortest decimal `c · 10 ^ k` that reads back as `m · 2 ^ e`. -/
def shortest (m : Nat) (e : Int) : Nat × Int :=
  firstGrid (Interval.of m e) 22 (decimalSize m e)

/-- A row without its zeros at the end. -/
def dropTrailingZeros (row : List Char) : List Char :=
  (row.reverse.dropWhile (· == '0')).reverse

/-- The positional text of `c · 10 ^ k`. -/
def positional (c : Nat) (k : Int) : List Char :=
  if 0 ≤ k then Text.digits 10 (c * Nat.pow 10 k.toNat)
  else
    let places := (-k).toNat
    let whole := Text.digits 10 (c / Nat.pow 10 places)
    match dropTrailingZeros (Text.fixedDigits 10 places (c % Nat.pow 10 places)) with
    | [] => whole
    | fraction => whole ++ '.' :: fraction

/-- The text of a number. -/
def text : Binary64 → String
  | .finite s m e =>
    let sign := if s then ['-'] else []
    if m = 0 then String.ofList (sign ++ ['0'])
    else
      let (c, k) := shortest m e
      String.ofList (sign ++ positional c k)
  | .infinite true => "-inf"
  | .infinite false => "inf"
  | .undefined => "NaN"

end PairQuote.Binary64
