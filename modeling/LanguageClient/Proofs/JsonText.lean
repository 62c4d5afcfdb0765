import LanguageClient.Json.Parser
import LanguageClient.Json.Printer
import LanguageClient.Proofs.Members
import LanguageClient.Proofs.Numerals

/-!
# Reading undoes writing

A value whose objects are canonical and whose numbers are integers of 64 bits reads back from its
compact written form, within as many levels as it has. What follows the written form is left
unread; it only must not continue a numeral.

The written form starts with a character that is neither a blank nor a closing bracket, so an
array that is not empty is never taken for an empty one.
-/

namespace LanguageClient.Json

mutual

/-- Every number inside the value is an integer of 64 bits, with or without a sign. -/
def hasWords : Json → Bool
  | .number value => value.isWord
  | .array items => hasWordsItems items
  | .object members => hasWordsMembers members
  | .null | .bool _ | .string _ => true

/-- Every number inside the items is an integer of 64 bits. -/
def hasWordsItems : List Json → Bool
  | [] => true
  | item :: items => hasWords item && hasWordsItems items

/-- Every number inside the members is an integer of 64 bits. -/
def hasWordsMembers : List (String × Json) → Bool
  | [] => true
  | (_, value) :: members => hasWords value && hasWordsMembers members

end

/-- A written hexadecimal digit has its value. -/
theorem hexDigit?_hexDigit {value : Nat} (small : value < 16) :
    hexDigit? (hexDigit value) = some value := by
  have all : ∀ value < 16, hexDigit? (hexDigit value) = some value := by decide
  exact all value small

/-- A code unit below the surrogates is a character of its own, whatever follows it. -/
theorem joinPieces_codeUnit {code : Nat} (small : code < 0xD800) (pieces : List Piece) :
    joinPieces (.codeUnit code :: pieces) = (joinPieces pieces).map (Char.ofNat code :: ·) := by
  have notHigh : isHighSurrogate code = false := by
    simp [isHighSurrogate]
    omega
  have notLow : isLowSurrogate code = false := by
    simp [isLowSurrogate]
    omega
  cases pieces with
  | nil => simp [joinPieces, notHigh, notLow]
  | cons piece pieces => cases piece <;> simp [joinPieces, notHigh, notLow]

/-- A one-letter escape is one piece. -/
theorem readPieces_escape {letter character : Char} (escape : escaped? letter = some character)
    (short : letter ≠ 'u') (rest : List Char) :
    readPieces ('\\' :: letter :: rest) =
      (readPieces rest).map fun read => (.character character :: read.1, read.2) := by
  cases read : readPieces rest <;> simp [readPieces, escape, short, read]

/-- One written character is one piece, which stands for that character. -/
theorem readPieces_writeChar (character : Char) (rest : List Char) :
    ∃ piece, readPieces (writeChar character ++ rest) =
        (readPieces rest).map (fun read => (piece :: read.1, read.2)) ∧
      ∀ pieces, joinPieces (piece :: pieces) = (joinPieces pieces).map (character :: ·) := by
  have plain : ∀ pieces, joinPieces (.character character :: pieces) =
      (joinPieces pieces).map (character :: ·) := fun _ => rfl
  unfold writeChar
  split
  · subst character
    exact ⟨_, readPieces_escape (by decide) (by decide) rest, plain⟩
  split
  · subst character
    exact ⟨_, readPieces_escape (by decide) (by decide) rest, plain⟩
  split
  · subst character
    exact ⟨_, readPieces_escape (by decide) (by decide) rest, plain⟩
  split
  · subst character
    exact ⟨_, readPieces_escape (by decide) (by decide) rest, plain⟩
  split
  · subst character
    exact ⟨_, readPieces_escape (by decide) (by decide) rest, plain⟩
  split
  · subst character
    exact ⟨_, readPieces_escape (by decide) (by decide) rest, plain⟩
  split
  · subst character
    exact ⟨_, readPieces_escape (by decide) (by decide) rest, plain⟩
  split
  · rename_i control
    have zero : hexDigit? '0' = some 0 := by decide
    have high : hexDigit? (hexDigit (character.toNat / 16)) = some (character.toNat / 16) :=
      hexDigit?_hexDigit (by omega)
    have low : hexDigit? (hexDigit (character.toNat % 16)) = some (character.toNat % 16) :=
      hexDigit?_hexDigit (by omega)
    have sum : character.toNat / 16 * 16 + character.toNat % 16 = character.toNat := by omega
    refine ⟨.codeUnit character.toNat, ?_, fun pieces => ?_⟩
    · cases read : readPieces rest <;> simp [readPieces, codeUnit?, zero, high, low, sum, read]
    · rw [joinPieces_codeUnit (by omega), Char.ofNat_toNat]
  · rename_i notQuote notBackslash _ _ _ _ _ notControl
    refine ⟨.character character, ?_, plain⟩
    cases read : readPieces rest <;> simp [readPieces, notBackslash, notControl, read]

/-- A written string is read up to its closing quote. -/
theorem readString_write (text rest : List Char) :
    readString (text.flatMap writeChar ++ '"' :: rest) = some (String.ofList text, rest) := by
  have read : ∃ pieces, readPieces (text.flatMap writeChar ++ '"' :: rest) = some (pieces, rest) ∧
      joinPieces pieces = some text := by
    induction text with
    | nil => exact ⟨[], by simp [readPieces], rfl⟩
    | cons character text inductionHypothesis =>
      obtain ⟨pieces, found, joined⟩ := inductionHypothesis
      obtain ⟨piece, first, stands⟩ :=
        readPieces_writeChar character (text.flatMap writeChar ++ '"' :: rest)
      refine ⟨piece :: pieces, ?_, ?_⟩
      · rw [List.flatMap_cons, List.append_assoc, first, found]
        rfl
      · rw [stands, joined]
        rfl
  obtain ⟨pieces, found, joined⟩ := read
  simp [readString, found, joined]

/-- A value that can be read within a number of levels: it has no more levels, its objects are
canonical, and its numbers are integers of 64 bits. -/
structure Readable (levels : Nat) (value : Json) : Prop where
  depth : value.depth ≤ levels
  canonical : value.canonical = true
  words : value.hasWords = true

/-- Whether a value can be read within a number of levels can be computed. -/
instance (levels : Nat) (value : Json) : Decidable (Readable levels value) :=
  decidable_of_iff (value.depth ≤ levels ∧ value.canonical = true ∧ value.hasWords = true)
    ⟨fun ⟨depth, canonical, words⟩ => ⟨depth, canonical, words⟩,
      fun readable => ⟨readable.depth, readable.canonical, readable.words⟩⟩

/-- Items have at most some levels if each of them has. -/
theorem depthItems_le {items : List Json} {levels : Nat} :
    depthItems items ≤ levels ↔ ∀ item ∈ items, item.depth ≤ levels := by
  induction items with
  | nil => simp [depthItems]
  | cons item items inductionHypothesis =>
    rw [depthItems, Nat.max_le, inductionHypothesis, List.forall_mem_cons]

/-- Items are canonical if each of them is. -/
theorem canonicalItems_iff {items : List Json} :
    canonicalItems items = true ↔ ∀ item ∈ items, item.canonical = true := by
  induction items with
  | nil => simp [canonicalItems]
  | cons item items inductionHypothesis => simp [canonicalItems, inductionHypothesis]

/-- Items have integers of 64 bits only if each of them has. -/
theorem hasWordsItems_iff {items : List Json} :
    hasWordsItems items = true ↔ ∀ item ∈ items, item.hasWords = true := by
  induction items with
  | nil => simp [hasWordsItems]
  | cons item items inductionHypothesis => simp [hasWordsItems, inductionHypothesis]

/-- Members have at most some levels if the value of each has. -/
theorem depthMembers_le {members : List (String × Json)} {levels : Nat} :
    depthMembers members ≤ levels ↔ ∀ member ∈ members, member.2.depth ≤ levels := by
  induction members with
  | nil => simp [depthMembers]
  | cons member members inductionHypothesis =>
    rw [depthMembers, Nat.max_le, inductionHypothesis, List.forall_mem_cons]

/-- Members are canonical if the value of each is. -/
theorem canonicalMembers_iff {members : List (String × Json)} :
    canonicalMembers members = true ↔ ∀ member ∈ members, member.2.canonical = true := by
  induction members with
  | nil => simp [canonicalMembers]
  | cons member members inductionHypothesis => simp [canonicalMembers, inductionHypothesis]

/-- Members have integers of 64 bits only if the value of each has. -/
theorem hasWordsMembers_iff {members : List (String × Json)} :
    hasWordsMembers members = true ↔ ∀ member ∈ members, member.2.hasWords = true := by
  induction members with
  | nil => simp [hasWordsMembers]
  | cons member members inductionHypothesis => simp [hasWordsMembers, inductionHypothesis]

/-- The items of a readable array are readable with one level less. -/
theorem Readable.item {levels : Nat} {items : List Json}
    (readable : Readable (levels + 1) (.array items)) {item : Json} (member : item ∈ items) :
    Readable levels item where
  depth := depthItems_le.mp (Nat.le_of_succ_le_succ readable.depth) item member
  canonical := canonicalItems_iff.mp readable.canonical item member
  words := hasWordsItems_iff.mp readable.words item member

/-- The values of the members of a readable object are readable with one level less, and its keys
are in strictly ascending order. -/
theorem Readable.members {levels : Nat} {members : List (String × Json)}
    (readable : Readable (levels + 1) (.object members)) :
    sortedKeys members = true ∧ ∀ member ∈ members, Readable levels member.2 := by
  have canonical := readable.canonical
  simp only [Json.canonical, Bool.and_eq_true] at canonical
  refine ⟨canonical.1, fun member inside => ?_⟩
  exact ⟨depthMembers_le.mp (Nat.le_of_succ_le_succ readable.depth) member inside,
    canonicalMembers_iff.mp canonical.2 member inside,
    hasWordsMembers_iff.mp readable.words member inside⟩

/-- A reader gives back every one of the values from its written form. -/
def Reads (item : Reader) (values : List Json) : Prop :=
  ∀ value ∈ values, ∀ rest, Numeral.Ends rest → item (value.write ++ rest) = some (value, rest)

/-- A written integer starts with a sign or a digit. -/
theorem write_number_cons {number : Number} (word : number.isWord = true) :
    ∃ first others, number.write = first :: others ∧ (first = '-' ∨ first.isDigit = true) := by
  cases number with
  | float value => exact absurd word (by simp [Number.isWord])
  | integer value =>
    cases value with
    | ofNat magnitude =>
      obtain ⟨first, others, written, digit⟩ := Numeral.toDigits_cons magnitude
      exact ⟨first, others, written, .inr digit⟩
    | negSucc predecessor => exact ⟨_, _, rfl, .inl rfl⟩

/-- The written form of a value starts with a character that is neither a blank nor a closing
bracket. -/
theorem write_cons {value : Json} (words : value.hasWords = true) :
    ∃ first others, value.write = first :: others ∧ isSpace first = false ∧ first ≠ ']' := by
  cases value with
  | null => exact ⟨_, _, by rw [write], by decide, by decide⟩
  | bool flag => cases flag <;> exact ⟨_, _, by rw [write], by decide, by decide⟩
  | string text => exact ⟨_, _, by rw [write, writeString]; rfl, by decide, by decide⟩
  | array items => exact ⟨_, _, by rw [write], by decide, by decide⟩
  | object members => exact ⟨_, _, by rw [write], by decide, by decide⟩
  | number number =>
    obtain ⟨first, others, written, sign⟩ := write_number_cons words
    refine ⟨first, others, by rw [write, written], ?_, ?_⟩
    · rw [Bool.eq_false_iff]
      intro space
      simp only [isSpace, Bool.or_eq_true, beq_iff_eq] at space
      rcases space with ((rfl | rfl) | rfl) | rfl <;> revert sign <;> decide
    · rintro rfl
      revert sign
      decide

/-- Nothing is skipped in front of a character that is not a blank. -/
@[simp] theorem skipSpaces_cons {first : Char} (solid : isSpace first = false)
    (rest : List Char) : skipSpaces (first :: rest) = first :: rest := by
  simp [skipSpaces, solid]

/-- Nothing is skipped in front of a written value. -/
theorem skipSpaces_write {value : Json} (words : value.hasWords = true) (rest : List Char) :
    skipSpaces (value.write ++ rest) = value.write ++ rest := by
  obtain ⟨first, others, written, solid, _⟩ := write_cons words
  rw [written, List.cons_append, skipSpaces_cons solid]

/-- A comma, a bracket and a brace end a numeral. -/
theorem ends_cons {first : Char} (mark : first ∈ [',', ']', '\x7d']) (rest : List Char) :
    Numeral.Ends (first :: rest) := by
  simp only [List.mem_cons, List.not_mem_nil, or_false] at mark
  obtain rfl | rfl | rfl := mark
  · exact ⟨rfl, by decide, by decide, by decide⟩
  · exact ⟨rfl, by decide, by decide, by decide⟩
  · exact ⟨rfl, by decide, by decide, by decide⟩

/-- Written items are read up to the closing bracket. -/
theorem readItems_write {item : Reader} {values : List Json} (reads : Reads item values)
    (words : ∀ value ∈ values, value.hasWords = true) (nonempty : values ≠ []) (fuel : Nat)
    (enough : values.length ≤ fuel) (rest : List Char) :
    readItems item fuel (writeItems values ++ rest) = some (values, rest) := by
  induction values generalizing fuel with
  | nil => exact absurd rfl nonempty
  | cons value values inductionHypothesis =>
    cases fuel with
    | zero => simp at enough
    | succ fuel =>
      have solid := skipSpaces_write (words value List.mem_cons_self)
      have first := reads value List.mem_cons_self
      cases values with
      | nil =>
        have closing : isSpace ']' = false := by decide
        simp [readItems, writeItems, solid, first (']' :: rest) (ends_cons (by simp) rest), closing]
      | cons next values =>
        have comma : isSpace ',' = false := by decide
        have others := inductionHypothesis
          (fun other member => reads other (List.mem_cons_of_mem value member))
          (fun other member => words other (List.mem_cons_of_mem value member)) (by simp) fuel
          (Nat.le_of_succ_le_succ enough)
        have read := first (',' :: (writeItems (next :: values) ++ rest)) (ends_cons (by simp) _)
        simp [readItems, writeItems, solid, read, comma, others]

/-- Written members are read up to the closing brace. -/
theorem readMembers_write {item : Reader} {members : List (String × Json)}
    (reads : Reads item (members.map Prod.snd))
    (words : ∀ member ∈ members, member.2.hasWords = true) (nonempty : members ≠ []) (fuel : Nat)
    (enough : members.length ≤ fuel) (rest : List Char) :
    readMembers item fuel (writeMembers members ++ rest) = some (members, rest) := by
  induction members generalizing fuel with
  | nil => exact absurd rfl nonempty
  | cons member members inductionHypothesis =>
    obtain ⟨key, value⟩ := member
    have quote : isSpace '"' = false := by decide
    have colon : isSpace ':' = false := by decide
    cases fuel with
    | zero => simp at enough
    | succ fuel =>
      have solid := skipSpaces_write (words (key, value) List.mem_cons_self)
      have first := reads value (by simp)
      cases members with
      | nil =>
        have closing : isSpace '\x7d' = false := by decide
        simp [readMembers, writeMembers, writeString, quote, readString_write, colon, solid,
          first ('\x7d' :: rest) (ends_cons (by simp) rest), closing]
      | cons next members =>
        have comma : isSpace ',' = false := by decide
        have others := inductionHypothesis
          (fun other member => reads other (List.mem_cons_of_mem value member))
          (fun other member => words other (List.mem_cons_of_mem (key, value) member)) (by simp)
          fuel (Nat.le_of_succ_le_succ enough)
        have read := first (',' :: (writeMembers (next :: members) ++ rest))
          (ends_cons (by simp) _)
        simp [readMembers, writeMembers, writeString, quote, readString_write, colon, solid, read,
          comma, others]

/-- Every item takes at least one character. -/
theorem length_le_writeItems (items : List Json) : items.length ≤ (writeItems items).length := by
  induction items with
  | nil => simp
  | cons item items inductionHypothesis =>
    cases items with
    | nil => simp [writeItems]
    | cons next items =>
      simp only [writeItems, List.length_append, List.length_cons] at inductionHypothesis ⊢
      omega

/-- Every member takes at least one character. -/
theorem length_le_writeMembers (members : List (String × Json)) :
    members.length ≤ (writeMembers members).length := by
  induction members with
  | nil => simp
  | cons member members inductionHypothesis =>
    cases members with
    | nil =>
      simp only [writeMembers, List.length_append, List.length_cons]
      omega
    | cons next members =>
      simp only [writeMembers, List.length_append, List.length_cons] at inductionHypothesis ⊢
      omega

/-- A written array is read back after its opening bracket. -/
theorem readArray_write {item : Reader} {items : List Json} (reads : Reads item items)
    (words : ∀ value ∈ items, value.hasWords = true) (rest : List Char) :
    readArray item (writeItems items ++ rest) = some (.array items, rest) := by
  cases items with
  | nil =>
    have closing : isSpace ']' = false := by decide
    simp [readArray, writeItems, closing]
  | cons value values =>
    have enough : (value :: values).length ≤ (writeItems (value :: values) ++ rest).length + 1 := by
      have bound := length_le_writeItems (value :: values)
      rw [List.length_append]
      omega
    have read := readItems_write reads words (by simp) _ enough rest
    -- The first item does not start with a bracket, so the array is not taken for an empty one.
    obtain ⟨first, others, written, solid, notClosing⟩ := write_cons (words value (by simp))
    obtain ⟨tail, starts⟩ : ∃ tail, writeItems (value :: values) = first :: tail := by
      cases values <;> simp [writeItems, written]
    rw [starts, List.cons_append] at read ⊢
    rw [readArray, skipSpaces_cons solid, read]
    simp [notClosing]

/-- A written object is read back after its opening brace, with its members in order. -/
theorem readObject_write {item : Reader} {members : List (String × Json)}
    (reads : Reads item (members.map Prod.snd))
    (words : ∀ member ∈ members, member.2.hasWords = true) (ascending : sortedKeys members = true)
    (rest : List Char) :
    readObject item (writeMembers members ++ rest) = some (.object members, rest) := by
  cases members with
  | nil =>
    have closing : isSpace '\x7d' = false := by decide
    simp [readObject, writeMembers, closing]
  | cons member members =>
    have enough : (member :: members).length ≤
        (writeMembers (member :: members) ++ rest).length + 1 := by
      have bound := length_le_writeMembers (member :: members)
      rw [List.length_append]
      omega
    have read := readMembers_write reads words (by simp) _ enough rest
    have quote : isSpace '"' = false := by decide
    obtain ⟨tail, starts⟩ : ∃ tail, writeMembers (member :: members) = '"' :: tail := by
      cases members <;> simp [writeMembers, writeString]
    rw [starts, List.cons_append] at read ⊢
    rw [readObject, skipSpaces_cons quote, read]
    simp [ofFields_of_sortedKeys ascending]

/-- A value that is neither an array nor an object is read back, whatever levels are allowed. -/
theorem readValue_scalar {value : Json} (scalar : value.depth = 0)
    (words : value.hasWords = true) (levels : Nat) {rest : List Char} (ends : Numeral.Ends rest) :
    readValue levels (value.write ++ rest) = some (value, rest) := by
  have skipLevels {first : Char} {tail : List Char} (notBracket : first ≠ '[')
      (notBrace : first ≠ '\x7b') :
      readValue levels (first :: tail) = readScalar (first :: tail) := by
    cases levels <;> simp [readValue, notBracket, notBrace]
  cases value with
  | null => simp [write, skipLevels, readScalar]
  | bool flag => cases flag <;> simp [write, skipLevels, readScalar]
  | string text => simp [write, writeString, skipLevels, readScalar, readString_write]
  | array items => simp [depth] at scalar
  | object members => simp [depth] at scalar
  | number number =>
    have read := Numeral.read_write words ends
    obtain ⟨first, others, written, sign⟩ := write_number_cons words
    have other : first ≠ '[' ∧ first ≠ '\x7b' ∧ first ≠ 'n' ∧ first ≠ 't' ∧ first ≠ 'f' ∧
        first ≠ '"' := by
      refine ⟨?_, ?_, ?_, ?_, ?_, ?_⟩ <;> rintro rfl <;> revert sign <;> decide
    obtain ⟨notBracket, notBrace, notN, notT, notF, notQuote⟩ := other
    rw [written, List.cons_append] at read
    rw [write, written, List.cons_append, skipLevels notBracket notBrace]
    simp [readScalar, notN, notT, notF, notQuote, read]

/-- A readable value is read back from its written form; what follows is left unread.

The levels bound the nesting: an array or object uses one, and its parts are read with the rest. -/
theorem readValue_write (levels : Nat) (value : Json) (readable : Readable levels value)
    (rest : List Char) (ends : Numeral.Ends rest) :
    readValue levels (value.write ++ rest) = some (value, rest) := by
  induction levels generalizing value rest with
  | zero =>
    exact readValue_scalar (Nat.le_zero.mp readable.depth) readable.words 0 ends
  | succ levels inductionHypothesis =>
    cases value with
    | null => exact readValue_scalar rfl readable.words _ ends
    | bool flag => exact readValue_scalar rfl readable.words _ ends
    | number number => exact readValue_scalar rfl readable.words _ ends
    | string text => exact readValue_scalar rfl readable.words _ ends
    | array items =>
      have reads : Reads (readValue levels) items := fun item member =>
        inductionHypothesis item (readable.item member)
      have words := hasWordsItems_iff.mp readable.words
      simp [write, readValue, readArray_write reads words]
    | object members =>
      obtain ⟨ascending, parts⟩ := readable.members
      have reads : Reads (readValue levels) (members.map Prod.snd) := by
        intro value member
        obtain ⟨pair, inside, rfl⟩ := List.mem_map.mp member
        exact inductionHypothesis pair.2 (parts pair inside)
      have words := hasWordsMembers_iff.mp readable.words
      simp [write, readValue, readObject_write reads words ascending]

/-- A readable value is what its written form parses to. -/
theorem parse_write {levels : Nat} {value : Json} (readable : Readable levels value) :
    parse levels value.write = some value := by
  have read := readValue_write levels value readable [] trivial
  have solid := skipSpaces_write readable.words []
  rw [List.append_nil] at read solid
  rw [parse, solid, read]
  rfl

end LanguageClient.Json
