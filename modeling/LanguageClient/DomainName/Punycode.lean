/-!
# Labels in ASCII letters

A label with other characters than ASCII is also written in ASCII alone: its ASCII characters in
order, a hyphen, and a list of numbers. Each number tells how far the next character lies from the
one before it, counted over codes and positions together. Numbers are written in letters and
digits with the least digit first; a digit below a threshold ends the number, and the thresholds
follow the size of the numbers before.
-/

namespace LanguageClient.DomainName.Punycode

/-- Number of digits. -/
def base : Nat := 36

/-- Greatest number that is counted with. -/
def greatest : Nat := 4294967295

/-- The value of a digit: letters of either case come first. -/
def digit? (character : Char) : Option Nat :=
  if 'a' ≤ character && character ≤ 'z' then some (character.toNat - 97)
  else if 'A' ≤ character && character ≤ 'Z' then some (character.toNat - 65)
  else if '0' ≤ character && character ≤ '9' then some (character.toNat - 48 + 26)
  else none

/-- The threshold at a place of a number. -/
def threshold (place bias : Nat) : Nat :=
  if place ≤ bias then 1 else if bias + 26 ≤ place then 26 else place - bias

/-- Shrink a difference, counting places. -/
def shrink (difference places : Nat) : Nat × Nat :=
  if 455 < difference then shrink (difference / 35) (places + base) else (difference, places)
termination_by difference
decreasing_by exact Nat.div_lt_self (by omega) (by omega)

/-- The bias after a difference, with the given number of characters so far. -/
def adapt (difference count : Nat) (first : Bool) : Nat :=
  let halved := if first then difference / 700 else difference / 2
  let (left, places) := shrink (halved + halved / count) 0
  places + base * left / (left + 38)

/-- Read a number and add it to a value. -/
def readNumber (bias place weight value : Nat) : List Char → Option (Nat × List Char)
  | [] => none
  | character :: rest =>
    match digit? character with
    | none => none
    | some digit =>
      let value := value + digit * weight
      let limit := threshold place bias
      if greatest < value then none
      else if digit < limit then some (value, rest)
      else if greatest < weight * (base - limit) then none
      else readNumber bias (place + base) (weight * (base - limit)) value rest

/-- Reading a number leaves less to read. -/
theorem readNumber_length {bias place weight value : Nat} {text : List Char}
    {result : Nat × List Char} (found : readNumber bias place weight value text = some result) :
    result.2.length < text.length := by
  induction text generalizing place weight value with
  | nil => simp [readNumber] at found
  | cons character rest inductionHypothesis =>
    unfold readNumber at found
    split at found
    · simp at found
    · simp only at found
      split at found
      · simp at found
      · split at found
        · rw [← Option.some.inj found]
          simp
        · split at found
          · simp at found
          · have shorter := inductionHypothesis found
            simp only [List.length_cons]
            omega

/-- Whether a code is that of a character. -/
def isCharacter (code : Nat) : Bool := code < 0xD800 || (0xDFFF < code && code < 0x110000)

/-- Insert the characters that the numbers of a text stand for. -/
def insertAll (bias code index : Nat) (done : List Char) (text : List Char) :
    Option (List Char) :=
  match text with
  | [] => some done
  | character :: rest =>
    match _ : readNumber bias base 1 index (character :: rest) with
    | none => none
    | some (value, left) =>
      let count := done.length + 1
      let code := code + value / count
      if isCharacter code then
        insertAll (adapt (value - index) count (index == 0)) code (value % count + 1)
          (done.insertIdx (value % count) (Char.ofNat code)) left
      else none
termination_by text.length
decreasing_by
  have shorter := readNumber_length ‹readNumber _ _ _ _ _ = some _›
  simpa using shorter

/-- Cut a text at its last hyphen. A text without one, or with none but the first character, has
nothing before it. -/
def cutLast (text : List Char) : List Char × List Char :=
  let after := (text.reverse.takeWhile (· != '-')).reverse
  let before := text.take (text.length - after.length - 1)
  if before.isEmpty then ([], text) else (before, after)

/-- Greatest length of a text that is decoded. -/
def longestText : Nat := 2000

/-- The label that an ASCII text stands for. A text without a number stands for none. -/
def decode? (text : List Char) : Option (List Char) :=
  let (plain, numbers) := cutLast text
  if numbers.isEmpty || longestText < text.length || text.any (127 < ·.toNat) then none
  else insertAll 72 128 0 plain numbers

end LanguageClient.DomainName.Punycode
