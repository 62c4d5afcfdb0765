import LanguageClient.Decimal.Shortest

/-!
# JSON numbers

A number is either an integer or a double-precision number; the two are different values even
when they are equal in size. Integers are written in decimal. A double-precision number is
written with the shortest digits that read back and always shows a point or an exponent, so
that it is never taken for an integer.
-/

namespace LanguageClient.Json

/-- An integer or a double-precision number. -/
inductive Number where
  | integer (value : Int)
  | float (value : Binary64)
deriving DecidableEq, Repr

namespace Number

/-- Where the written form of a double-precision number changes from positions to an exponent.
The point position counts the digits in front of the decimal point. -/
structure Layout where
  greatestPoint : Int
  leastPoint : Int
  fractionOfWhole : List Char
  exponentMark : Char

/-- Positions are used up to sixteen digits in front of the point and up to four zeros behind
it, a whole number ends in `.0`, and the exponent mark is `e`. -/
def layout : Layout := ⟨16, -4, ['.', '0'], 'e'⟩

/-- An exponent with its sign. -/
def writeExponent (exponent : Int) : List Char :=
  match exponent with
  | .ofNat power => '+' :: Nat.toDigits 10 power
  | .negSucc power => '-' :: Nat.toDigits 10 (power + 1)

/-- Lay out digits so that they denote `digits * 10 ^ exponent`. -/
def arrange (layout : Layout) (digits : List Char) (exponent : Int) : List Char :=
  let point := digits.length + exponent
  if 0 ≤ exponent ∧ point ≤ layout.greatestPoint then
    digits ++ List.replicate exponent.toNat '0' ++ layout.fractionOfWhole
  else if 0 < point ∧ point ≤ layout.greatestPoint then
    digits.take point.toNat ++ '.' :: digits.drop point.toNat
  else if layout.leastPoint ≤ point ∧ point ≤ 0 then
    ['0', '.'] ++ List.replicate (-point).toNat '0' ++ digits
  else
    let fraction := digits.drop 1
    digits.take 1 ++ (if fraction.isEmpty then [] else '.' :: fraction) ++
      layout.exponentMark :: writeExponent (point - 1)

/-- The written form of a double-precision number. -/
def writeFloat (value : Binary64) : List Char :=
  let decimal := Decimal.shortest value
  (if value.negative then ['-'] else []) ++
    arrange layout (Nat.toDigits 10 decimal.digits) decimal.exponent

/-- The written form of an integer. -/
def writeInteger (value : Int) : List Char :=
  match value with
  | .ofNat magnitude => Nat.toDigits 10 magnitude
  | .negSucc predecessor => '-' :: Nat.toDigits 10 (predecessor + 1)

/-- The written form of a number. -/
def write : Number → List Char
  | .integer value => writeInteger value
  | .float value => writeFloat value

end Number

end LanguageClient.Json
