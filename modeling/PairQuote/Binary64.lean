/-! # Binary floating-point numbers

Numbers of the form `± mantissa · 2 ^ exponent` with a mantissa of at most 53 bits, the
infinities and the undefined number, as in the 64-bit interchange format.  Everything is
exact integer arithmetic: an operation forms the exact **ratio** of two naturals and
`ofRatio` takes the nearest representable number, an exact half going to the even
mantissa.  The **bits** are the interchange encoding.

A finite number is kept in its encoded form: the mantissa has exactly 53 bits, or the
exponent is the least one, `-1074`.
-/
namespace PairQuote

/-- A number of the 64-bit binary format. -/
inductive Binary64 where
  | finite (negative : Bool) (mantissa : Nat) (exponent : Int)
  | infinite (negative : Bool)
  | undefined
  deriving DecidableEq, Repr

namespace Binary64

/-- The least mantissa of 53 bits. -/
def fullMantissa : Nat := 0x10000000000000

/-- The sign of an encoded number. -/
def signBit : Nat := 0x8000000000000000

/-- The least exponent. -/
def minExponent : Int := -1074

/-- The greatest exponent. -/
def maxExponent : Int := 971

/-- Zero with a sign. -/
def zero (negative : Bool := false) : Binary64 := .finite negative 0 minExponent

/-- The ratio `num / den / 2 ^ exponent` as two naturals. -/
def scaled (num den : Nat) (exponent : Int) : Nat × Nat :=
  if 0 ≤ exponent then (num, den * Nat.pow 2 exponent.toNat)
  else (num * Nat.pow 2 (-exponent).toNat, den)

/-- The natural nearest to `num / den`, an exact half going to the even one. -/
def nearestEven (num den : Nat) : Nat :=
  let below := num / den
  let twice := 2 * (num % den)
  if twice > den ∨ (twice = den ∧ below % 2 = 1) then below + 1 else below

/-- The least exponent at which `num / den` has no more than 53 bits before the point.
The logarithms fix it up to one. -/
def exponentFor (num den : Nat) : Int :=
  let low : Int := (Nat.log2 num : Int) - (Nat.log2 den : Int) - 53
  let (n, d) := scaled num den low
  max minExponent (if n / d < 2 * fullMantissa then low else low + 1)

/-- The number nearest to `num / den`, with the given sign; `den` is positive. -/
def ofRatio (negative : Bool) (num den : Nat) : Binary64 :=
  if num = 0 then zero negative
  else
    let exponent := exponentFor num den
    let (n, d) := scaled num den exponent
    let mantissa := nearestEven n d
    let (mantissa, exponent) :=
      if mantissa = 2 * fullMantissa then (fullMantissa, exponent + 1) else (mantissa, exponent)
    if exponent > maxExponent then .infinite negative else .finite negative mantissa exponent

/-- The number nearest to a natural. -/
def ofNat (n : Nat) : Binary64 := ofRatio false n 1

/-- The number nearest to `mantissa · 10 ^ exponent`.  Exponents beyond the range of the
format are settled without forming the power. -/
def ofDecimal (negative : Bool) (mantissa : Nat) (exponent : Int) : Binary64 :=
  let magnitude : Int := exponent + (Nat.log2 mantissa / 3 : Nat)
  if mantissa = 0 then zero negative
  else if exponent > 400 then .infinite negative
  else if magnitude < -400 then zero negative
  else if 0 ≤ exponent then ofRatio negative (mantissa * Nat.pow 10 exponent.toNat) 1
  else ofRatio negative mantissa (Nat.pow 10 (-exponent).toNat)

/-- Whether the number is finite. -/
def isFinite : Binary64 → Bool
  | .finite .. => true
  | _ => false

/-- The magnitude of a finite number as an exact ratio. -/
def ratio (mantissa : Nat) (exponent : Int) : Nat × Nat :=
  if 0 ≤ exponent then (mantissa * Nat.pow 2 exponent.toNat, 1)
  else (mantissa, Nat.pow 2 (-exponent).toNat)

/-- The quotient, for finite numbers and a divisor that is not zero. -/
def div : Binary64 → Binary64 → Binary64
  | .finite s m e, .finite t n f =>
    if n = 0 then .undefined
    else
      let (a, b) := ratio m e
      let (c, d) := ratio n f
      ofRatio (s != t) (a * d) (b * c)
  | _, _ => .undefined

/-- The product of finite numbers. -/
def mul : Binary64 → Binary64 → Binary64
  | .finite s m e, .finite t n f =>
    let (a, b) := ratio m e
    let (c, d) := ratio n f
    ofRatio (s != t) (a * c) (b * d)
  | _, _ => .undefined

/-- The number with the other sign. -/
def negate : Binary64 → Binary64
  | .finite s m e => .finite (!s) m e
  | .infinite s => .infinite (!s)
  | .undefined => .undefined

/-- The interchange encoding. -/
def bits : Binary64 → Nat
  | .finite s m e =>
    let magnitude :=
      if m < fullMantissa then m
      else (e - minExponent + 1).toNat * fullMantissa + (m - fullMantissa)
    (if s then signBit else 0) + magnitude
  | .infinite s => (if s then signBit else 0) + 2047 * fullMantissa
  | .undefined => 2047 * fullMantissa + fullMantissa / 2

/-- The nearest natural, a half going away from zero, no more than `bound`; negative
numbers and the undefined one give zero. -/
def toNatSaturating (bound : Nat) : Binary64 → Nat
  | .finite true _ _ => 0
  | .finite false m e =>
    let (a, b) := ratio m e
    min bound ((2 * a + b) / (2 * b))
  | .infinite true => 0
  | .infinite false => bound
  | .undefined => 0

end Binary64

end PairQuote
