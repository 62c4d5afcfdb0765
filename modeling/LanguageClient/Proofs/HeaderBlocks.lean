import LanguageClient.Proofs.HeaderLines
import Mathlib.Data.List.Basic
import Mathlib.Data.List.TakeWhile

/-!
# Header blocks

A header block may hold any lines in any number, as long as every length it gives can be read. Blank
lines are allowed before the first length, other headers everywhere, and a length may be given
several times and with white space around its parts. The block announces the last length it gives,
and a blank line ends it.

What a line says is described here by the shape of its text, without regard to how lines are read.
Reading agrees with the description, so a block is read to its end, the length that it announces is
found, and what follows the block is left.
-/

namespace LanguageClient.Text

/-- A text of white space alone. -/
def AllBlank (text : List Char) : Prop := ∀ character ∈ text, isBlank character = true

/-- White space beside white space. -/
theorem AllBlank.append {left right : List Char} (leftBlank : AllBlank left)
    (rightBlank : AllBlank right) : AllBlank (left ++ right) :=
  fun character member => (List.mem_append.mp member).elim (leftBlank character)
    (rightBlank character)

/-- The white space in front of a text is white space. -/
theorem allBlank_takeWhile (text : List Char) : AllBlank (text.takeWhile isBlank) :=
  fun _ => List.mem_takeWhile_imp

/-- Trimming the end takes white space off it and nothing else. -/
theorem trimEnd_split (text : List Char) :
    ∃ after, text = trimEnd text ++ after ∧ AllBlank after := by
  refine ⟨(text.reverse.takeWhile isBlank).reverse, ?_, fun character member =>
    allBlank_takeWhile text.reverse character (List.mem_reverse.mp member)⟩
  have whole : text.reverse.takeWhile isBlank ++ text.reverse.dropWhile isBlank = text.reverse :=
    List.takeWhile_append_dropWhile
  have turned := congrArg List.reverse whole
  rw [List.reverse_append, List.reverse_reverse] at turned
  exact turned.symm

/-- Trimming takes white space off both ends and nothing else. -/
theorem trim_split (text : List Char) :
    ∃ before after, text = before ++ trim text ++ after ∧ AllBlank before ∧ AllBlank after := by
  have front : text = text.takeWhile isBlank ++ text.dropWhile isBlank :=
    List.takeWhile_append_dropWhile.symm
  obtain ⟨after, back, blankAfter⟩ := trimEnd_split (text.dropWhile isBlank)
  refine ⟨text.takeWhile isBlank, after, ?_, allBlank_takeWhile text, blankAfter⟩
  rw [List.append_assoc, trim, ← back]
  exact front

/-- Nothing is left of white space, and white space is all of which nothing is left. -/
theorem trim_eq_nil_iff {text : List Char} : trim text = [] ↔ AllBlank text := by
  constructor
  · intro empty
    obtain ⟨before, after, split, blankBefore, blankAfter⟩ := trim_split text
    rw [split, empty, List.append_nil]
    exact blankBefore.append blankAfter
  · intro blank
    have dropped : text.dropWhile isBlank = [] := List.dropWhile_eq_nil_iff.mpr blank
    rw [trim, dropped]
    rfl

/-- White space around a solid text is dropped. -/
theorem trim_solid {text before after : List Char} (blankBefore : AllBlank before)
    (blankAfter : AllBlank after) (nonempty : text ≠ [])
    (solidFirst : ∀ first, text.head? = some first → isBlank first = false)
    (solidLast : ∀ last, text.getLast? = some last → isBlank last = false) :
    trim (before ++ text ++ after) = text := by
  have starts : text.head? = some (text.head nonempty) := List.head?_eq_some_head nonempty
  have ends : text.getLast? = some (text.getLast nonempty) := List.getLast?_eq_some_getLast nonempty
  exact trim_padded before after blankBefore blankAfter starts ends (solidFirst _ starts)
    (solidLast _ ends)

/-- Dropping white space from the end stops at every solid character. -/
theorem trimEnd_append_cons (text : List Char) {solid : Char} (isSolid : isBlank solid = false)
    (rest : List Char) : trimEnd (text ++ solid :: rest) = text ++ solid :: trimEnd rest := by
  simp only [trimEnd, List.reverse_append, List.reverse_cons, List.append_assoc,
    List.singleton_append, List.dropWhile_append]
  split
  · rename_i empty
    simp [isSolid, List.isEmpty_iff.mp empty]
  · simp

end LanguageClient.Text

namespace LanguageClient.Rpc.Frame

open Text (AllBlank)

/-- The line is one of the header that gives the length: before its first colon stands the name, in
any case and with white space around it. What follows the colon is the value. -/
def NamesLength (line value : List Char) : Prop :=
  ∃ before name after, line = before ++ name ++ after ++ ':' :: value ∧ AllBlank before ∧
    AllBlank after ∧ Text.sameLetters name lengthHeader = true

/-- The numeral denotes a length that fits its word: decimal digits, perhaps with a plus sign. -/
def Denotes (numeral : List Char) (length : Nat) : Prop :=
  ∃ sign digits, numeral = sign ++ digits ∧ (sign = [] ∨ sign = ['+']) ∧ digits ≠ [] ∧
    (∀ digit ∈ digits, digit.isDigit = true) ∧ Nat.ofDigitChars 10 digits 0 = length ∧
    length ≤ maxLength

/-- What a line says by its shape: it is blank, it gives a length that can be read, or it is of
another header, or of none. -/
inductive Shaped (line : List Char) : HeaderLine → Prop where
  | blank (blank : AllBlank line) : Shaped line .blank
  | length {value before numeral after : List Char} {length : Nat} (named : NamesLength line value)
      (padded : value = before ++ numeral ++ after) (blankBefore : AllBlank before)
      (blankAfter : AllBlank after) (denotes : Denotes numeral length) :
      Shaped line (.length length)
  | other (solid : ¬ AllBlank line) (unnamed : ∀ value, ¬ NamesLength line value) :
      Shaped line .other

/-- White space has no case. -/
theorem toLower_of_isBlank {character : Char} (blank : Text.isBlank character = true) :
    character.toLower = character := by
  have outside : ¬ (65 ≤ character.toNat ∧ character.toNat ≤ 90) := by
    simp only [Text.isBlank, Bool.or_eq_true, Bool.and_eq_true, decide_eq_true_eq,
      beq_iff_eq] at blank
    omega
  exact dif_neg outside

/-- The name of the length header holds neither white space nor a colon, and is not empty. -/
theorem name_solid {name : List Char} (same : Text.sameLetters name lengthHeader = true) :
    (∀ character ∈ name, Text.isBlank character = false) ∧ ':' ∉ name ∧ name ≠ [] := by
  have letters : name.map Char.toLower = lengthHeader.map Char.toLower := by
    simpa [Text.sameLetters] using same
  have inside {character : Char} (member : character ∈ name) :
      character.toLower ∈ lengthHeader.map Char.toLower :=
    letters ▸ List.mem_map_of_mem member
  refine ⟨fun character member => ?_, fun member => ?_, ?_⟩
  · rw [Bool.eq_false_iff]
    intro blank
    have present := inside member
    rw [toLower_of_isBlank blank] at present
    -- A quantifier over characters would be decided by trying all of them.
    have solid : (lengthHeader.map Char.toLower).all (fun letter => !Text.isBlank letter) = true :=
      by decide
    simpa [blank] using List.all_eq_true.mp solid character present
  · exact absurd (inside member) (by decide)
  · rintro rfl
    exact absurd letters (by decide)

/-- A numeral reads as the length that it denotes. -/
theorem Denotes.readLength {numeral : List Char} {length : Nat} (denotes : Denotes numeral length) :
    Frame.readLength numeral = some length := by
  obtain ⟨sign, digits, rfl, signed, nonempty, all, value, fits⟩ := denotes
  have whole : Json.Numeral.someDigits digits = some (digits.map (·.toNat - 48), []) := by
    have read : Json.Numeral.digits (digits ++ []) = (digits.map (·.toNat - 48), []) :=
      Json.Numeral.digits_append all (by simp)
    rw [List.append_nil] at read
    rw [Json.Numeral.someDigits, read]
    cases digits with
    | nil => exact absurd rfl nonempty
    | cons first others => rfl
  have denoted : Json.Numeral.ofDigits (digits.map (·.toNat - 48)) = length := by
    rw [Json.Numeral.ofDigits_map, value]
  obtain rfl | rfl := signed
  · cases digits with
    | nil => exact absurd rfl nonempty
    | cons first others =>
      have unsigned : first ≠ '+' := by
        rintro rfl
        exact absurd (all '+' List.mem_cons_self) (by decide)
      simp only [List.map_cons] at whole denoted
      simp [Frame.readLength, unsigned, whole, denoted, fits]
  · simp [Frame.readLength, whole, denoted, fits]

/-- A numeral starts and ends with characters that are not white space. -/
theorem Denotes.solid {numeral : List Char} {length : Nat} (denotes : Denotes numeral length) :
    (∀ character ∈ numeral, Text.isBlank character = false) ∧ numeral ≠ [] := by
  obtain ⟨sign, digits, rfl, signed, nonempty, all, -, -⟩ := denotes
  refine ⟨fun character member => ?_, by simp [nonempty]⟩
  obtain inSign | inDigits := List.mem_append.mp member
  · obtain rfl | rfl := signed
    · exact absurd inSign List.not_mem_nil
    · rw [List.mem_singleton.mp inSign]
      decide
  · exact Text.isBlank_of_isDigit (all character inDigits)

/-- White space holds no colon. -/
theorem colon_not_mem {text : List Char} (blank : AllBlank text) : ':' ∉ text :=
  fun member => absurd (blank ':' member) (by decide)

/-- A line whose trimmed text has the name before its first colon is one of the length header. -/
theorem named_of_cut {line name value : List Char}
    (found : Text.cut ':' (Text.trim line) = some (name, value))
    (same : Text.sameLetters (Text.trim name) lengthHeader = true) :
    ∃ after, NamesLength line (value ++ after) ∧ AllBlank after := by
  obtain ⟨before, after, whole, blankBefore, blankAfter⟩ := Text.trim_split line
  obtain ⟨left, right, parts, blankLeft, blankRight⟩ := Text.trim_split name
  refine ⟨after, ⟨before ++ left, Text.trim name, right, ?_, blankBefore.append blankLeft,
    blankRight, same⟩, blankAfter⟩
  rw [Text.of_cut_eq_some found] at whole
  rw [whole]
  conv => lhs; rw [parts]
  simp

/-- A line of the length header is read as such, and says what becomes of its value. -/
theorem readHeaderLine_named {line value : List Char} (named : NamesLength line value) :
    readHeaderLine line =
      match Frame.readLength (Text.trim (Text.trimEnd value)) with
      | some length => .length length
      | none => .badLength (Text.trim (Text.trimEnd value)) := by
  obtain ⟨front, name, gap, rfl, blankFront, blankGap, same⟩ := named
  obtain ⟨nameSolid, nameColon, nameNonempty⟩ := name_solid same
  have header : Text.trim (front ++ name ++ gap ++ ':' :: value) =
      name ++ gap ++ ':' :: Text.trimEnd value := by
    have dropped : (front ++ name ++ gap ++ ':' :: value).dropWhile Text.isBlank =
        name ++ gap ++ ':' :: value := by
      rw [List.append_assoc, List.append_assoc, List.dropWhile_append_of_pos blankFront]
      cases name with
      | nil => exact absurd rfl nameNonempty
      | cons first others => simp [nameSolid first List.mem_cons_self]
    rw [Text.trim, dropped, Text.trimEnd_append_cons (name ++ gap) (by decide)]
  have nonempty : (name ++ gap ++ ':' :: Text.trimEnd value).isEmpty = false := by simp
  have cutHeader : Text.cut ':' (name ++ gap ++ ':' :: Text.trimEnd value) =
      some (name ++ gap, Text.trimEnd value) := by
    refine Text.cut_append (fun member => ?_) _
    exact (List.mem_append.mp member).elim nameColon (colon_not_mem blankGap)
  have nameTrimmed : Text.trim (name ++ gap) = name := by
    have nothing : AllBlank [] := by simp [AllBlank]
    simpa using Text.trim_solid nothing blankGap nameNonempty
      (fun first starts => nameSolid first (List.mem_of_head? starts))
      (fun last ends => nameSolid last (List.mem_of_getLast? ends))
  rw [readHeaderLine, header]
  simp only [nonempty, cutHeader, nameTrimmed, same, if_true]
  rfl

/-- A line is read as what it says by its shape. -/
theorem Shaped.readHeaderLine {line : List Char} {said : HeaderLine} (shaped : Shaped line said) :
    Frame.readHeaderLine line = said := by
  cases shaped with
  | blank blank => simp [Frame.readHeaderLine, Text.trim_eq_nil_iff.mpr blank]
  | @length value before numeral after length named padded blankBefore blankAfter denotes =>
    obtain ⟨solid, nonempty⟩ := denotes.solid
    have trimmed : Text.trim (Text.trimEnd value) = numeral := by
      obtain ⟨front, last, rfl⟩ := (List.eq_nil_or_concat numeral).resolve_left nonempty
      simp only [List.concat_eq_append] at padded solid ⊢
      have nothing : AllBlank [] := by simp [AllBlank]
      have ends : Text.trimEnd value = before ++ (front ++ [last]) := by
        rw [padded, ← List.append_assoc]
        exact Text.trimEnd_append blankAfter (solid last (by simp))
      rw [ends]
      simpa using Text.trim_solid blankBefore nothing (by simp)
        (fun first starts => solid first (List.mem_of_head? starts))
        (fun final ends => solid final (List.mem_of_getLast? ends))
    simp only [readHeaderLine_named named, trimmed, denotes.readLength]
  | other solid unnamed =>
    have nonempty : Text.trim line ≠ [] := fun empty => solid (Text.trim_eq_nil_iff.mp empty)
    cases found : Text.cut ':' (Text.trim line) with
    | none => simp [Frame.readHeaderLine, nonempty, found]
    | some pieces =>
      obtain ⟨name, value⟩ := pieces
      have different : Text.sameLetters (Text.trim name) lengthHeader = false := by
        rw [Bool.eq_false_iff]
        intro same
        obtain ⟨after, named, -⟩ := named_of_cut found same
        exact unnamed _ named
      simp [Frame.readHeaderLine, nonempty, found, different]

/-- Digits up to the end of a text make up the text. -/
theorem all_digits {text : List Char} {values : List Nat}
    (read : Json.Numeral.digits text = (values, [])) :
    ∀ character ∈ text, character.isDigit = true := by
  induction text generalizing values with
  | nil => simp
  | cons first others inductionHypothesis =>
    unfold Json.Numeral.digits at read
    cases value : Json.Numeral.digit? first with
    | none => simp [value] at read
    | some digit =>
      simp only [value, Prod.mk.injEq] at read
      have isDigit : first.isDigit = true := by
        unfold Json.Numeral.digit? at value
        split at value
        · simp only [Char.isDigit, Bool.and_eq_true, decide_eq_true_eq]
          assumption
        · cases value
      have rest := inductionHypothesis (Prod.ext rfl read.2)
      rintro character (_ | ⟨_, member⟩)
      · exact isDigit
      · exact rest character member

/-- Digits behind an optional sign that are within the greatest length denote what they are read as.
-/
theorem denotes_of_someDigits {sign digits : List Char} {values : List Nat} {length : Nat}
    (signed : sign = [] ∨ sign = ['+'])
    (shape : Json.Numeral.someDigits digits = some (values, []))
    (found : (if Json.Numeral.ofDigits values ≤ maxLength then
      some (Json.Numeral.ofDigits values) else none) = some length) :
    Denotes (sign ++ digits) length := by
  have fits := Option.ite_none_right_eq_some.mp found
  have whole : Json.Numeral.digits digits = (values, []) := by
    unfold Json.Numeral.someDigits at shape
    split at shape
    · cases shape
    · exact Option.some.inj shape
  have all := all_digits whole
  have mapped : values = digits.map (·.toNat - 48) := by
    have read : Json.Numeral.digits (digits ++ []) = (digits.map (·.toNat - 48), []) :=
      Json.Numeral.digits_append all (by simp)
    rw [List.append_nil, whole] at read
    exact (Prod.mk.inj read).1
  have nonempty : digits ≠ [] := by
    rintro rfl
    simp [Json.Numeral.someDigits, Json.Numeral.digits] at shape
  refine ⟨sign, digits, rfl, signed, nonempty, all, ?_, ?_⟩
  · rw [← Json.Numeral.ofDigits_map, ← mapped]
    exact Option.some.inj fits.2
  · exact Option.some.inj fits.2 ▸ fits.1

/-- What reads as a length is a numeral that denotes it. -/
theorem denotes_of_readLength {numeral : List Char} {length : Nat}
    (read : readLength numeral = some length) : Denotes numeral length := by
  unfold readLength at read
  split at read
  · dsimp only at read
    split at read
    · exact denotes_of_someDigits (.inr rfl) ‹_› read
    · cases read
  · dsimp only at read
    split at read
    · exact denotes_of_someDigits (.inl rfl) ‹_› read
    · cases read

/-- A line has the shape of what it is read as, unless its length cannot be read. -/
theorem shaped_of_readHeaderLine {line : List Char} {said : HeaderLine}
    (read : readHeaderLine line = said) (readable : ∀ text, said ≠ .badLength text) :
    Shaped line said := by
  by_cases blank : AllBlank line
  · have shaped := Shaped.blank blank
    rw [← read, shaped.readHeaderLine]
    exact shaped
  · by_cases named : ∃ value, NamesLength line value
    · obtain ⟨value, named⟩ := named
      rw [readHeaderLine_named named] at read
      split at read
      · rename_i length found
        obtain ⟨behind, whole, blankBehind⟩ := Text.trimEnd_split value
        obtain ⟨before, after, parts, blankBefore, blankAfter⟩ :=
          Text.trim_split (Text.trimEnd value)
        have padded : value = before ++ Text.trim (Text.trimEnd value) ++ (after ++ behind) := by
          rw [← List.append_assoc, ← parts]
          exact whole
        exact read ▸ .length named padded blankBefore (blankAfter.append blankBehind)
          (denotes_of_readLength found)
      · exact absurd read.symm (readable _)
    · have shaped := Shaped.other blank (not_exists.mp named)
      rw [← read, shaped.readHeaderLine]
      exact shaped

/-- A text whose only line feed is its last character. -/
def IsLine (line : List Char) : Prop := ∃ content, '\n' ∉ content ∧ line = content ++ ['\n']

/-- Whether a text is a line can be computed. -/
instance (line : List Char) : Decidable (IsLine line) :=
  decidable_of_iff ('\n' ∉ line.dropLast ∧ line.getLast? = some '\n') <| by
    constructor
    · rintro ⟨absent, ends⟩
      obtain ⟨content, rfl⟩ := List.getLast?_eq_some_iff.mp ends
      exact ⟨content, by simpa using absent, rfl⟩
    · rintro ⟨content, absent, rfl⟩
      simpa using absent

/-- Reading a line takes it off the input and does what the line says. -/
theorem readHeader_shaped {line : List Char} {said : HeaderLine} (complete : IsLine line)
    (shaped : Shaped line said) (length : Option Nat) (rest : List UInt8) :
    readHeader length (Utf8.encode line ++ rest) = headerStep length said rest := by
  obtain ⟨content, absent, rfl⟩ := complete
  rw [readHeader_line absent, shaped.readHeaderLine]

/-- A header block that announces a body of some length. Before the first length it holds blank
lines and other headers. The lengths that follow are superseded by the last one, after which only
other headers follow up to the closing blank line. -/
structure HeaderBlock (length : Nat) where
  opening : List (List Char)
  superseded : List (List Char)
  announcing : List Char
  trailing : List (List Char)
  closing : List Char
  complete : ∀ line ∈ opening ++ superseded ++ announcing :: trailing ++ [closing], IsLine line
  opens : ∀ line ∈ opening, Shaped line .blank ∨ Shaped line .other
  supersedes : ∀ line ∈ superseded, (∃ value, Shaped line (.length value)) ∨ Shaped line .other
  announces : Shaped announcing (.length length)
  trails : ∀ line ∈ trailing, Shaped line .other
  closes : Shaped closing .blank

namespace HeaderBlock

variable {length : Nat}

/-- The lines of a block in order. -/
def lines (block : HeaderBlock length) : List (List Char) :=
  block.opening ++ block.superseded ++ block.announcing :: block.trailing ++ [block.closing]

/-- The bytes of a block. -/
def bytes (block : HeaderBlock length) : List UInt8 := block.lines.flatMap Utf8.encode

end HeaderBlock

/-- Lines that leave the length seen so far as it is are read over. -/
theorem readHeader_passed {lines : List (List Char)} {length : Option Nat}
    (complete : ∀ line ∈ lines, IsLine line)
    (passed : ∀ line ∈ lines, Shaped line .other ∨ length = none ∧ Shaped line .blank)
    (rest : List UInt8) :
    readHeader length (lines.flatMap Utf8.encode ++ rest) = readHeader length rest := by
  induction lines with
  | nil => rfl
  | cons line lines inductionHypothesis =>
    have others := inductionHypothesis
      (fun other member => complete other (List.mem_cons_of_mem line member))
      (fun other member => passed other (List.mem_cons_of_mem line member))
    have first := complete line List.mem_cons_self
    rw [List.flatMap_cons, List.append_assoc]
    obtain shaped | ⟨rfl, shaped⟩ := passed line List.mem_cons_self
    · rw [readHeader_shaped first shaped]
      simpa only [headerStep] using others
    · rw [readHeader_shaped first shaped]
      exact others

/-- Lines with lengths are read over; at their end some length was seen, or the one from before. -/
theorem readHeader_superseded {lines : List (List Char)}
    (complete : ∀ line ∈ lines, IsLine line)
    (lengths : ∀ line ∈ lines, (∃ value, Shaped line (.length value)) ∨ Shaped line .other)
    (length : Option Nat) (rest : List UInt8) :
    ∃ seen, readHeader length (lines.flatMap Utf8.encode ++ rest) = readHeader seen rest := by
  induction lines generalizing length with
  | nil => exact ⟨length, rfl⟩
  | cons line lines inductionHypothesis =>
    have others := inductionHypothesis
      (fun other member => complete other (List.mem_cons_of_mem line member))
      (fun other member => lengths other (List.mem_cons_of_mem line member))
    have first := complete line List.mem_cons_self
    rw [List.flatMap_cons, List.append_assoc]
    obtain ⟨value, shaped⟩ | shaped := lengths line List.mem_cons_self
    · rw [readHeader_shaped first shaped]
      exact others (some value)
    · rw [readHeader_shaped first shaped]
      simpa only [headerStep] using others length

/-- A block is read to its end, and announces its last length; what follows it is left. -/
theorem readHeader_block {length : Nat} (block : HeaderBlock length) (rest : List UInt8) :
    readHeader none (block.bytes ++ rest) = .body length rest := by
  have complete := block.complete
  simp only [List.mem_append, List.mem_cons, List.not_mem_nil, or_false] at complete
  have opened (rest : List UInt8) :
      readHeader none (block.opening.flatMap Utf8.encode ++ rest) = readHeader none rest :=
    readHeader_passed (fun line member => complete line (.inl (.inl (.inl member))))
      (fun line member => (block.opens line member).symm.imp_right fun shaped => ⟨rfl, shaped⟩) rest
  have superseded (rest : List UInt8) :
      ∃ seen, readHeader none (block.superseded.flatMap Utf8.encode ++ rest) =
        readHeader seen rest :=
    readHeader_superseded (fun line member => complete line (.inl (.inl (.inr member))))
      block.supersedes none rest
  have announced := readHeader_shaped (complete block.announcing (.inl (.inr (.inl rfl))))
    block.announces
  have trailed (rest : List UInt8) :
      readHeader (some length) (block.trailing.flatMap Utf8.encode ++ rest) =
        readHeader (some length) rest :=
    readHeader_passed (fun line member => complete line (.inl (.inr (.inr member))))
      (fun line member => .inl (block.trails line member)) rest
  have closed := readHeader_shaped (complete block.closing (.inr rfl)) block.closes
  simp only [HeaderBlock.bytes, HeaderBlock.lines, List.flatMap_append, List.flatMap_cons,
    List.flatMap_nil, List.append_nil, List.append_assoc]
  rw [opened]
  obtain ⟨seen, passed⟩ := superseded (Utf8.encode block.announcing ++
    (block.trailing.flatMap Utf8.encode ++ (Utf8.encode block.closing ++ rest)))
  rw [passed, announced, headerStep, trailed, closed, headerStep]

/-- A block ends with a line feed. -/
theorem HeaderBlock.endsLine_bytes {length : Nat} (block : HeaderBlock length) :
    endsLine block.bytes = true := by
  obtain ⟨content, -, ends⟩ := block.complete block.closing (by simp)
  have feed : Utf8.encode ['\n'] = [10] := by decide
  simp [endsLine, bytes, lines, ends, feed]

end LanguageClient.Rpc.Frame
