import LanguageClient.Binary64

/-!
# The shortest decimal that reads back

Every positive double-precision number is the rounded value of some decimal with at most
seventeen digits. For each number of digits the two decimals around the value are tried; the
first number of digits for which one of them rounds to the value wins, and of two such decimals
the nearer one, or the even one when both are equally near.
-/

namespace LanguageClient

/-- The number `digits * 10 ^ exponent`. -/
structure Decimal where
  digits : Nat
  exponent : Int
deriving DecidableEq, Repr

namespace Decimal

/-- Multiply a ratio by a power of ten, keeping it a ratio of natural numbers. -/
def scale (dividend divisor : Nat) (exponent : Int) : Nat × Nat :=
  match exponent with
  | .ofNat power => (dividend * Nat.pow 10 power, divisor)
  | .negSucc power => (dividend, divisor * Nat.pow 10 (power + 1))

/-- Number of decimal digits; zero has one. -/
def digitCount (value : Nat) : Nat := (Nat.toDigits 10 value).length

/-- The exponent of the leading decimal digit of a positive ratio. -/
def leadingExponent (dividend divisor : Nat) : Int :=
  if divisor ≤ dividend then (digitCount (dividend / divisor) : Int) - 1
  else -(digitCount ((divisor + dividend - 1) / dividend - 1) : Int)

/-- Whether a decimal rounds to the given magnitude. -/
def readsBack (value : Binary64) (decimal : Decimal) : Bool :=
  let (dividend, divisor) := scale decimal.digits 1 decimal.exponent
  Binary64.ofRatio dividend divisor == some { value with negative := false }

/-- The decimal with at most the given number of digits that reads back, if there is one. -/
def candidate (value : Binary64) (leading : Int) (digits : Nat) : Option Decimal :=
  let exponent := leading + 1 - digits
  let (dividend, divisor) := scale value.magnitude Binary64.unit (-exponent)
  let lower := dividend / divisor
  let remainder := dividend % divisor
  let below : Decimal := ⟨lower, exponent⟩
  let above : Decimal := ⟨lower + 1, exponent⟩
  match readsBack value below, readsBack value above with
  | true, true =>
    if 2 * remainder < divisor then some below
    else if divisor < 2 * remainder then some above
    else if lower % 2 = 0 then some below else some above
  | true, false => some below
  | false, true => some above
  | false, false => none

/-- Move trailing zeros of the digits into the exponent. The first argument bounds the work. -/
def dropZeros : Nat → Decimal → Decimal
  | 0, decimal => decimal
  | fuel + 1, decimal =>
    if decimal.digits ≠ 0 ∧ decimal.digits % 10 = 0 then
      dropZeros fuel ⟨decimal.digits / 10, decimal.exponent + 1⟩
    else decimal

/-- The shortest decimal that reads back as the magnitude of a number. -/
def shortest (value : Binary64) : Decimal :=
  if value.magnitude = 0 then ⟨0, 0⟩
  else
    let leading := leadingExponent value.magnitude Binary64.unit
    match (List.range' 1 17).findSome? (candidate value leading) with
    | some decimal => dropZeros 20 decimal
    | none => ⟨value.magnitude / Binary64.unit, 0⟩

end Decimal

end LanguageClient
