/-!
# Double-precision numbers as exact ratios

A finite double-precision number is a sign and a magnitude `significand * 2 ^ exponent / 2 ^ 1074`.
The least exponent holds the subnormal numbers; above it the leading bit of the significand is
set. All operations work on exact ratios of natural numbers and round once, to the nearest
representable magnitude, with a tie going to the even significand. A magnitude beyond the
largest finite one has no value here.
-/

namespace LanguageClient

/-- A finite double-precision number. -/
structure Binary64 where
  negative : Bool
  significand : Nat
  exponent : Nat
deriving DecidableEq, Repr, Inhabited

namespace Binary64

/-- Magnitudes are counted in units of `1 / unit`. -/
def unit : Nat := Nat.pow 2 1074

/-- The largest exponent of a finite number. -/
def maxExponent : Nat := 2045

/-- Positive zero. -/
def zero : Binary64 := ⟨false, 0, 0⟩

/-- The magnitude as a count of units. -/
def magnitude (value : Binary64) : Nat := value.significand * Nat.pow 2 value.exponent

/-- The same magnitude with the opposite sign. -/
def negate (value : Binary64) : Binary64 := { value with negative := !value.negative }

/-- The quotient rounded to the nearest natural number, a tie going to the even one. -/
def roundQuotient (dividend divisor : Nat) : Nat :=
  let quotient := dividend / divisor
  let twice := 2 * (dividend % divisor)
  if twice < divisor then quotient
  else if divisor < twice then quotient + 1
  else if quotient % 2 = 0 then quotient else quotient + 1

/-- Number of binary digits. -/
def bitLength (value : Nat) : Nat := if value = 0 then 0 else value.log2 + 1

/-- The nonnegative number nearest to a ratio, if it is finite. -/
def ofRatio (dividend divisor : Nat) : Option Binary64 :=
  let exponent := bitLength (dividend * unit / divisor) - 53
  let significand := roundQuotient (dividend * unit) (divisor * Nat.pow 2 exponent)
  let value : Binary64 :=
    if significand = Nat.pow 2 53 then ⟨false, Nat.pow 2 52, exponent + 1⟩
    else ⟨false, significand, exponent⟩
  if value.exponent ≤ maxExponent then some value else none

/-- The number nearest to a natural number, if it is finite. -/
def ofNat (value : Nat) : Option Binary64 := ofRatio value 1

/-- The rounded product of two magnitudes, if it is finite. -/
def times (left right : Binary64) : Option Binary64 :=
  ofRatio (left.magnitude * right.magnitude) (unit * unit)

/-- The rounded quotient of two magnitudes, if it is finite. -/
def dividedBy (left right : Binary64) : Option Binary64 :=
  ofRatio left.magnitude right.magnitude

end Binary64

end LanguageClient
