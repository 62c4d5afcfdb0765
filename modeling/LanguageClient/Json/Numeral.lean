import LanguageClient.Json.Number

/-!
# Reading JSON numerals

A numeral is an optional minus sign, digits without a superfluous leading zero, an optional
fraction and an optional exponent. Without fraction and exponent it denotes an integer when it
fits 64 bits, with or without a sign; `-0` and anything longer denotes a double-precision
number.

The digits are collected into a significand of 64 bits. Integer digits that no longer fit only
raise the power of ten; fraction digits that no longer fit are dropped. The value is the rounded
significand, multiplied or divided once by a power of ten, so it is not always the number
nearest to the numeral. A value beyond the finite range makes the numeral invalid.
-/

namespace LanguageClient.Json.Numeral

/-- The parts of a numeral. Absent fraction and exponent are told apart from zero ones. -/
structure Parts where
  negative : Bool
  whole : List Nat
  fraction : Option (List Nat)
  exponent : Option Int
deriving DecidableEq, Repr

/-- The value of a decimal digit. -/
def digit? (character : Char) : Option Nat :=
  if '0' ≤ character ∧ character ≤ '9' then some (character.toNat - 48) else none

/-- The longest run of digits at the front. -/
def digits : List Char → List Nat × List Char
  | [] => ([], [])
  | character :: rest =>
    match digit? character with
    | some value =>
      let (values, left) := digits rest
      (value :: values, left)
    | none => ([], character :: rest)

/-- At least one digit. -/
def someDigits (text : List Char) : Option (List Nat × List Char) :=
  match digits text with
  | ([], _) => none
  | found => some found

/-- The number that digits denote. -/
def ofDigits (values : List Nat) : Nat := values.foldl (fun value digit => value * 10 + digit) 0

/-- Digits of the whole part: a single zero, or digits that do not start with zero. -/
def readWhole (text : List Char) : Option (List Nat × List Char) := do
  let (values, rest) ← someDigits text
  match values with
  | 0 :: _ :: _ => none
  | _ => some (values, rest)

/-- An optional fraction; a point must be followed by a digit. -/
def readFraction : List Char → Option (Option (List Nat) × List Char)
  | '.' :: rest => do
    let (values, rest) ← someDigits rest
    some (some values, rest)
  | text => some (none, text)

/-- An exponent after its mark. -/
def readSigned : List Char → Option (Int × List Char)
  | '-' :: rest => do
    let (values, rest) ← someDigits rest
    some (-(ofDigits values : Int), rest)
  | '+' :: rest => do
    let (values, rest) ← someDigits rest
    some ((ofDigits values : Int), rest)
  | rest => do
    let (values, rest) ← someDigits rest
    some ((ofDigits values : Int), rest)

/-- An optional exponent; a mark must be followed by at least one digit. -/
def readExponent : List Char → Option (Option Int × List Char)
  | 'e' :: rest => do
    let (exponent, rest) ← readSigned rest
    some (some exponent, rest)
  | 'E' :: rest => do
    let (exponent, rest) ← readSigned rest
    some (some exponent, rest)
  | text => some (none, text)

/-- The longest numeral at the front. -/
def readParts (text : List Char) : Option (Parts × List Char) := do
  let (negative, text) :=
    match text with
    | '-' :: rest => (true, rest)
    | _ => (false, text)
  let (whole, text) ← readWhole text
  let (fraction, text) ← readFraction text
  let (exponent, text) ← readExponent text
  some (⟨negative, whole, fraction, exponent⟩, text)

/-- The greatest significand. -/
def maxSignificand : Nat := UInt64.size - 1

/-- Collect digits while the significand stays in range; what is left does not fit. -/
def collect : Nat → List Nat → Nat × List Nat
  | significand, [] => (significand, [])
  | significand, digit :: rest =>
    if significand * 10 + digit ≤ maxSignificand then collect (significand * 10 + digit) rest
    else (significand, digit :: rest)

/-- The greatest power of ten that is a finite number. -/
def maxPower : Nat := 308

/-- The double-precision number nearest to a power of ten. -/
def powerOfTen (power : Nat) : Option Binary64 := Binary64.ofNat (Nat.pow 10 power)

/-- Multiply or divide by a power of ten. A power beyond the greatest one is split; zero stays
zero whatever the power. -/
def scaleByTen (value : Binary64) (exponent : Int) : Option Binary64 :=
  if exponent.natAbs ≤ maxPower then do
    let power ← powerOfTen exponent.natAbs
    if 0 ≤ exponent then value.times power else value.dividedBy power
  else if value.significand = 0 then some value
  else if 0 ≤ exponent then none
  else do
    let power ← powerOfTen maxPower
    let smaller ← value.dividedBy power
    scaleByTen smaller (exponent + maxPower)
termination_by exponent.natAbs
decreasing_by simp only [maxPower] at *; omega

/-- The double-precision number that the parts denote. -/
def float (parts : Parts) : Option Binary64 := do
  let (significand, dropped) := collect 0 parts.whole
  let (significand, absorbed) :=
    match parts.fraction with
    | none => (significand, 0)
    | some fraction =>
      let (extended, left) := collect significand fraction
      (extended, fraction.length - left.length)
  let value ← Binary64.ofNat significand
  let scaled ← scaleByTen value (dropped.length - absorbed + parts.exponent.getD 0)
  some (if parts.negative then scaled.negate else scaled)

/-- The number that the parts denote. -/
def value (parts : Parts) : Option Number :=
  match parts.fraction, parts.exponent with
  | none, none =>
    let magnitude := ofDigits parts.whole
    if !parts.negative && magnitude ≤ maxSignificand then some (.integer magnitude)
    else if parts.negative && 0 < magnitude && magnitude ≤ Nat.pow 2 63 then
      some (.integer (-(magnitude : Int)))
    else (float parts).map .float
  | _, _ => (float parts).map .float

/-- The number at the front of a text. -/
def read (text : List Char) : Option (Number × List Char) := do
  let (parts, rest) ← readParts text
  let number ← value parts
  some (number, rest)

end LanguageClient.Json.Numeral
