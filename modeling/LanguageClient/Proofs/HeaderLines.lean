import LanguageClient.Proofs.Numerals
import LanguageClient.Proofs.Utf8
import LanguageClient.Rpc.Frame

/-!
# Lines of a header block

A header block is read line by line. A line ends with its first line feed; what it says depends on
its text alone, and what follows it is read on. The line that gives a length says that length, and
a line of blanks ends the block once a length was given.
-/

namespace LanguageClient.Text

/-- Blanks at the end are dropped up to the last character that is none. -/
theorem trimEnd_append {text blanks : List Char} {last : Char}
    (blank : ∀ character ∈ blanks, isBlank character = true) (solid : isBlank last = false) :
    trimEnd (text ++ [last] ++ blanks) = text ++ [last] := by
  have dropped : (blanks.reverse ++ last :: text.reverse).dropWhile isBlank =
      last :: text.reverse := by
    rw [List.dropWhile_append_of_pos (by simpa using blank)]
    simp [solid]
  simp [trimEnd, dropped]

/-- Blanks around a text are dropped when its first and last characters are none. -/
theorem trim_padded {text : List Char} {first last : Char} (before after : List Char)
    (blankBefore : ∀ character ∈ before, isBlank character = true)
    (blankAfter : ∀ character ∈ after, isBlank character = true)
    (starts : text.head? = some first) (ends : text.getLast? = some last)
    (solidFirst : isBlank first = false) (solidLast : isBlank last = false) :
    trim (before ++ text ++ after) = text := by
  obtain ⟨front, rfl⟩ := List.getLast?_eq_some_iff.mp ends
  obtain ⟨others, opened⟩ := List.head?_eq_some_iff.mp starts
  have kept : (before ++ (front ++ [last]) ++ after).dropWhile isBlank =
      front ++ [last] ++ after := by
    rw [List.append_assoc, List.dropWhile_append_of_pos blankBefore, opened]
    simp [solidFirst]
  rw [trim, kept, trimEnd_append blankAfter solidLast]

/-- A digit is not a blank. -/
theorem isBlank_of_isDigit {character : Char} (digit : character.isDigit = true) :
    isBlank character = false := by
  have range : 48 ≤ character.toNat ∧ character.toNat ≤ 57 := by
    simp only [Char.isDigit, Bool.and_eq_true, decide_eq_true_eq] at digit
    exact digit
  rw [Bool.eq_false_iff]
  intro blank
  simp only [isBlank, Bool.or_eq_true, Bool.and_eq_true, decide_eq_true_eq, beq_iff_eq] at blank
  omega

end LanguageClient.Text

namespace LanguageClient.Rpc.Frame

/-- The length that digits give is the one they were written for. -/
theorem readLength_toDigits {length : Nat} (fits : length ≤ maxLength) :
    readLength (Nat.toDigits 10 length) = some length := by
  obtain ⟨first, others, written, digit⟩ := Json.Numeral.toDigits_cons length
  have unsigned : first ≠ '+' := by
    rintro rfl
    exact absurd digit (by decide)
  have whole := Json.Numeral.someDigits_toDigits length [] (by simp)
  have denoted := Json.Numeral.ofDigits_toDigits length
  rw [List.append_nil] at whole
  rw [written] at whole denoted ⊢
  simp only [List.map_cons] at whole denoted
  simp [readLength, unsigned, whole, denoted, fits]

/-- A line ends with its first line feed. -/
theorem splitLine_append_lineFeed {line : List UInt8} (absent : 10 ∉ line) (rest : List UInt8) :
    splitLine (line ++ 10 :: rest) = (line ++ [10], rest) := by
  induction line with
  | nil => simp [splitLine]
  | cons byte line inductionHypothesis =>
    have different : byte ≠ 10 := fun same => absent (same ▸ List.mem_cons_self)
    have later := inductionHypothesis fun member => absent (List.mem_cons_of_mem byte member)
    simp [splitLine, different, later]

/-- What reading does with a line that says something, given the length seen so far. -/
def headerStep (length : Option Nat) (said : HeaderLine) (rest : List UInt8) : Header :=
  match said, length with
  | .blank, some length => .body length rest
  | .blank, none => readHeader none rest
  | .length value, _ => readHeader (some value) rest
  | .badLength value, _ =>
    .failed (.protocol ("invalid Content-Length: " ++ String.ofList value)) rest
  | .other, length => readHeader length rest

/-- A text with a line feed at its end and nowhere else is read as one line. -/
theorem readHeader_line {text : List Char} (absent : '\n' ∉ text) (length : Option Nat)
    (rest : List UInt8) :
    readHeader length (Utf8.encode (text ++ ['\n']) ++ rest) =
      headerStep length (readHeaderLine (text ++ ['\n'])) rest := by
  have feed : Utf8.encode ['\n'] = [10] := by decide
  have line : Utf8.encode (text ++ ['\n']) ++ rest = Utf8.encode text ++ 10 :: rest := by
    rw [Utf8.encode_append, feed, List.append_assoc]
    rfl
  have cutLine := splitLine_append_lineFeed (Utf8.lineFeed_not_mem_encode absent) rest
  have decoded : Utf8.decode (Utf8.encode text ++ [10]) = .ok (text ++ ['\n']) := by
    rw [← feed, ← Utf8.encode_append, Utf8.decode_encode]
  rw [line]
  unfold readHeader
  split
  · rename_i empty
    exact absurd empty (by simp)
  · rename_i byte following shape
    rw [← shape, cutLine]
    simp only [decoded]
    rfl

/-- The line that gives a length is one line. -/
theorem lengthLine_unbroken (length : Nat) :
    '\n' ∉ "Content-Length: ".toList ++ Nat.toDigits 10 length ++ ['\r'] := by
  intro member
  rcases List.mem_append.mp member with member | member
  · rcases List.mem_append.mp member with member | member
    · exact absurd member (by decide)
    · exact absurd (Json.Numeral.isDigit_of_mem member) (by decide)
  · exact absurd member (by decide)

/-- The line that gives a length says that length. -/
theorem readHeaderLine_length {length : Nat} (fits : length ≤ maxLength) :
    readHeaderLine ("Content-Length: ".toList ++ Nat.toDigits 10 length ++ ['\r'] ++ ['\n']) =
      .length length := by
  obtain ⟨first, others, written, digit⟩ := Json.Numeral.toDigits_cons length
  have ends : ∃ last,
      (Nat.toDigits 10 length).getLast? = some last ∧ Text.isBlank last = false := by
    cases shape : (Nat.toDigits 10 length).getLast? with
    | none => simp [written] at shape
    | some last =>
      exact ⟨last, rfl, Text.isBlank_of_isDigit
        (Json.Numeral.isDigit_of_mem (List.mem_of_getLast? shape))⟩
  obtain ⟨last, isLast, solidLast⟩ := ends
  have header : Text.trim ("Content-Length: ".toList ++ Nat.toDigits 10 length ++ ['\r', '\n']) =
      "Content-Length: ".toList ++ Nat.toDigits 10 length := by
    have closing : ("Content-Length: ".toList ++ Nat.toDigits 10 length).getLast? = some last := by
      rw [List.getLast?_append, isLast]
      rfl
    exact Text.trim_padded [] ['\r', '\n'] (by simp) (List.all_eq_true.mp rfl) rfl closing
      (by decide) solidLast
  have value : Text.trim (' ' :: Nat.toDigits 10 length) = Nat.toDigits 10 length := by
    have trimmed := Text.trim_padded [' '] [] (List.all_eq_true.mp rfl) (by simp)
      (congrArg List.head? written) isLast (Text.isBlank_of_isDigit digit) solidLast
    simpa using trimmed
  have cutHeader : Text.cut ':' ("Content-Length: ".toList ++ Nat.toDigits 10 length) =
      some ("Content-Length".toList, ' ' :: Nat.toDigits 10 length) :=
    Text.cut_append (by decide : ':' ∉ "Content-Length".toList) _
  have named : Text.sameLetters (Text.trim "Content-Length".toList) lengthHeader = true := by decide
  rw [readHeaderLine, List.append_assoc _ ['\r'] ['\n'], List.singleton_append, header]
  simp only [cutHeader, named, value, readLength_toDigits fits]
  rfl

end LanguageClient.Rpc.Frame
