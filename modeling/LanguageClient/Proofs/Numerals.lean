import LanguageClient.Json.Numeral

/-!
# Integers read back from their digits

A run of decimal digits is read to its end and denotes the number it was written for. Integers
that fit a word of 64 bits, with or without a sign, read back as the same integer: they have no
superfluous zero in front, and the text that follows does not continue them.
-/

namespace LanguageClient.Json

/-- Integers of 64 bits, with or without a sign. -/
def Number.isWord : Number → Bool
  | .integer value => -9223372036854775808 ≤ value && value ≤ 18446744073709551615
  | .float _ => false

namespace Numeral

/-- What follows a numeral does not continue it. -/
def Ends : List Char → Prop
  | [] => True
  | character :: _ =>
    digit? character = none ∧ character ≠ '.' ∧ character ≠ 'e' ∧ character ≠ 'E'

/-- The value of a digit is its distance from zero. -/
theorem digit?_of_isDigit {character : Char} (digit : character.isDigit = true) :
    digit? character = some (character.toNat - 48) := by
  simp only [Char.isDigit, Bool.and_eq_true, decide_eq_true_eq] at digit
  exact if_pos digit

/-- Digits are read up to the first character that is none. -/
theorem digits_append {text rest : List Char} (all : ∀ character ∈ text, character.isDigit = true)
    (stop : ∀ character tail, rest = character :: tail → digit? character = none) :
    digits (text ++ rest) = (text.map (·.toNat - 48), rest) := by
  induction text with
  | nil =>
    cases rest with
    | nil => rfl
    | cons character tail => simp [digits, stop character tail rfl]
  | cons character text inductionHypothesis =>
    have first := digit?_of_isDigit (all character List.mem_cons_self)
    have others := inductionHypothesis fun other member =>
      all other (List.mem_cons_of_mem character member)
    simp [digits, first, others]

/-- The number that digits denote is the one that the library reads from them. -/
theorem ofDigits_map (text : List Char) :
    ofDigits (text.map (·.toNat - 48)) = Nat.ofDigitChars 10 text 0 := by
  simp [ofDigits, Nat.ofDigitChars_eq_foldl, List.foldl_map, Nat.mul_comm]

/-- Written digits denote the number they were written for. -/
theorem ofDigits_toDigits (value : Nat) :
    ofDigits ((Nat.toDigits 10 value).map (·.toNat - 48)) = value := by
  rw [ofDigits_map, Nat.ofDigitChars_ten_toDigits]

/-- Every written digit is a digit. -/
theorem isDigit_of_mem {value : Nat} {character : Char}
    (member : character ∈ Nat.toDigits 10 value) : character.isDigit = true :=
  Nat.isDigit_of_mem_toDigits (by decide) (by decide) member

/-- Written digits start with a digit. -/
theorem toDigits_cons (value : Nat) :
    ∃ first others, Nat.toDigits 10 value = first :: others ∧ first.isDigit = true := by
  cases written : Nat.toDigits 10 value with
  | nil => exact absurd written Nat.toDigits_ne_nil
  | cons first others =>
    exact ⟨first, others, rfl, isDigit_of_mem (written ▸ List.mem_cons_self)⟩

/-- A zero in front stands alone.

A number of several digits is written as its tenth followed by the last digit. If the tenth were
written as a single zero it would be zero, and the number would have one digit. -/
theorem toDigits_leading_zero {value : Nat} {others : List Char}
    (written : Nat.toDigits 10 value = '0' :: others) : others = [] := by
  induction value using Nat.strongRecOn generalizing others with
  | ind value inductionHypothesis =>
    by_cases single : value < 10
    · rw [Nat.toDigits_of_lt_base single] at written
      exact (List.cons.inj written).2.symm
    · rw [Nat.toDigits_of_base_le (by decide) (by omega)] at written
      obtain ⟨first, rest, tenth, _⟩ := toDigits_cons (value / 10)
      rw [tenth, List.cons_append] at written
      obtain ⟨rfl, _⟩ := List.cons.inj written
      have alone : rest = [] := inductionHypothesis (value / 10) (by omega) tenth
      have none : value / 10 = 0 := by
        rw [← ofDigits_toDigits (value / 10), tenth, alone]
        decide
      omega

/-- Written digits are read whole. -/
theorem someDigits_toDigits (value : Nat) (rest : List Char)
    (stop : ∀ character tail, rest = character :: tail → digit? character = none) :
    someDigits (Nat.toDigits 10 value ++ rest) =
      some ((Nat.toDigits 10 value).map (·.toNat - 48), rest) := by
  obtain ⟨first, others, written, _⟩ := toDigits_cons value
  rw [someDigits, digits_append (fun _ => isDigit_of_mem) stop, written]
  rfl

/-- A character with the value zero is the zero. -/
theorem eq_zero_of_isDigit {character : Char} (digit : character.isDigit = true)
    (zero : character.toNat - 48 = 0) : character = '0' := by
  have least : 48 ≤ character.toNat := by
    simp only [Char.isDigit, Bool.and_eq_true, decide_eq_true_eq] at digit
    exact digit.1
  rw [← Char.ofNat_toNat character, show character.toNat = 48 by omega]

/-- Written digits are a whole part: no zero stands in front of them. -/
theorem readWhole_toDigits (value : Nat) (rest : List Char)
    (stop : ∀ character tail, rest = character :: tail → digit? character = none) :
    readWhole (Nat.toDigits 10 value ++ rest) =
      some ((Nat.toDigits 10 value).map (·.toNat - 48), rest) := by
  rw [readWhole, someDigits_toDigits value rest stop]
  obtain ⟨first, others, written, digit⟩ := toDigits_cons value
  simp only [Option.bind_eq_bind, Option.bind_some, written, List.map_cons]
  split
  · rename_i second tail shape
    obtain ⟨zero, following⟩ := List.cons.inj shape
    obtain rfl := eq_zero_of_isDigit digit zero
    rw [toDigits_leading_zero written] at following
    exact absurd following (by simp)
  · rfl

/-- Without fraction and exponent the parts are the digits. -/
theorem readParts_toDigits (value : Nat) {rest : List Char} (ends : Ends rest) :
    readParts (Nat.toDigits 10 value ++ rest) =
        some (⟨false, (Nat.toDigits 10 value).map (·.toNat - 48), none, none⟩, rest) ∧
      readParts ('-' :: (Nat.toDigits 10 value ++ rest)) =
        some (⟨true, (Nat.toDigits 10 value).map (·.toNat - 48), none, none⟩, rest) := by
  have stop : ∀ character tail, rest = character :: tail → digit? character = none := by
    rintro character tail rfl
    exact ends.1
  have whole := readWhole_toDigits value rest stop
  have fraction : readFraction rest = some (none, rest) := by
    unfold readFraction
    split
    · exact absurd rfl ends.2.1
    · rfl
  have exponent : readExponent rest = some (none, rest) := by
    unfold readExponent
    split
    · exact absurd rfl ends.2.2.1
    · exact absurd rfl ends.2.2.2
    · rfl
  obtain ⟨first, others, written, digit⟩ := toDigits_cons value
  have unsigned : first ≠ '-' := by
    rintro rfl
    exact absurd digit (by decide)
  constructor
  · rw [written, List.cons_append] at whole ⊢
    simp [readParts, unsigned, whole, fraction, exponent]
  · simp [readParts, whole, fraction, exponent]

/-- An integer that fits a word reads back from its written form. -/
theorem read_write {number : Number} (word : number.isWord = true) {rest : List Char}
    (ends : Ends rest) : read (number.write ++ rest) = some (number, rest) := by
  cases number with
  | float value => exact absurd word (by simp [Number.isWord])
  | integer value =>
    simp only [Number.isWord, Bool.and_eq_true, decide_eq_true_eq] at word
    cases value with
    | ofNat magnitude =>
      have fits : magnitude ≤ maxSignificand := by
        simp only [maxSignificand, UInt64.size, Int.ofNat_eq_natCast] at word ⊢
        omega
      simp [read, Number.write, Number.writeInteger, (readParts_toDigits magnitude ends).1, value,
        ofDigits_toDigits, fits]
    | negSucc predecessor =>
      have fits : predecessor + 1 ≤ Nat.pow 2 63 := by
        have power : Nat.pow 2 63 = 9223372036854775808 := by decide
        rw [power]
        omega
      simp [read, Number.write, Number.writeInteger, (readParts_toDigits (predecessor + 1) ends).2,
        value, ofDigits_toDigits, fits, Int.negSucc_eq]

end Numeral

end LanguageClient.Json
