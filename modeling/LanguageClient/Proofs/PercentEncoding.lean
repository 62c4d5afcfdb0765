import LanguageClient.Proofs.Utf8
import LanguageClient.Uri.FilePath

/-!
# Percent-encoded segments

A percent-encoded text is decoded to its own bytes, whatever characters it holds, so it cannot be
taken for a dot segment unless the text is one. It holds no delimiter of a URI. It is made of the
characters of a URI path unless the text holds one of the four characters that are neither encoded
nor allowed.
-/

namespace LanguageClient.Uri

/-- The value of an upper-case digit is read back. -/
theorem hexDigit?_upperHexDigit {value : Nat} (small : value < 16) :
    Json.hexDigit? (upperHexDigit value) = some value := by
  have digits : ∀ value : Fin 16, Json.hexDigit? (upperHexDigit value) = some value.val := by decide
  exact digits ⟨value, small⟩

/-- An upper-case digit is hexadecimal. -/
theorem isHexadecimal_upperHexDigit {value : Nat} (small : value < 16) :
    isHexadecimal (upperHexDigit value) = true := by
  have digits : ∀ value : Fin 16, isHexadecimal (upperHexDigit value) = true := by decide
  exact digits ⟨value, small⟩

/-- A byte is written with two digits. -/
theorem byte_digits (byte : UInt8) : byte.toNat / 16 < 16 ∧ byte.toNat % 16 < 16 := by
  have bound : byte.toNat < 256 := byte.toNat_lt
  omega

/-- A percent-encoded byte is decoded. -/
theorem percentDecode_encodedByte (byte : UInt8) (rest : List Char) :
    percentDecode (percentEncodeByte byte ++ rest) = byte :: percentDecode rest := by
  obtain ⟨high, low⟩ := byte_digits byte
  have whole : byte.toNat / 16 * 16 + byte.toNat % 16 = byte.toNat := by omega
  simp only [percentEncodeByte, List.cons_append, List.nil_append, percentDecode,
    hexDigit?_upperHexDigit high, hexDigit?_upperHexDigit low, whole, UInt8.ofNat_toNat]

/-- Percent-encoded bytes are decoded one by one. -/
theorem percentDecode_encodedBytes (bytes : List UInt8) (rest : List Char) :
    percentDecode (bytes.flatMap percentEncodeByte ++ rest) = bytes ++ percentDecode rest := by
  induction bytes with
  | nil => rfl
  | cons byte bytes inductionHypothesis =>
    rw [List.flatMap_cons, List.append_assoc, percentDecode_encodedByte, inductionHypothesis,
      List.cons_append]

/-- A character other than the percent sign stands for itself. -/
theorem percentDecode_cons {character : Char} (plain : character ≠ '%') (rest : List Char) :
    percentDecode (character :: rest) = Utf8.encodeChar character ++ percentDecode rest := by
  rw [percentDecode]
  rintro high low rest ⟨⟩
  exact absurd rfl plain

/-- A character that stands for itself in an encoded text is no percent sign. -/
theorem ne_percent {character : Char} (plain : ¬ isEncodedInPath character = true) :
    character ≠ '%' := by
  rintro rfl
  exact plain (by decide)

/-- A percent-encoded text is decoded to its own bytes. -/
theorem percentDecode_percentEncode (text : List Char) :
    percentDecode (percentEncode text) = Utf8.encode text := by
  induction text with
  | nil => rfl
  | cons character text inductionHypothesis =>
    rw [percentEncode] at inductionHypothesis ⊢
    rw [List.flatMap_cons, Utf8.encode, List.flatMap_cons, ← Utf8.encode]
    split
    · rw [percentDecode_encodedBytes, inductionHypothesis]
    · rename_i plain
      rw [List.singleton_append, percentDecode_cons (ne_percent plain), inductionHypothesis]

/-- Only an upper-case letter has another character as its lower-case form. -/
theorem of_toLower_eq {character lower : Char} (same : character.toLower = lower) :
    character = lower ∨ (65 ≤ character.toNat ∧ character.toNat + 32 = lower.toNat) := by
  unfold Char.toLower at same
  split at same
  · rename_i upper
    subst same
    refine .inr ⟨upper.1, ?_⟩
    have bound : character.val.toNat ≤ 90 := upper.2
    have sum : (character.val + 32).toNat = character.val.toNat + 32 := by
      rw [UInt32.toNat_add]
      change (character.val.toNat + 32) % 4294967296 = _
      omega
    exact sum.symm
  · exact .inl same

/-- The ways to write a dot, in lower case. -/
def dotForms : List (List Char) := [['.'], ['%', '2', 'e']]

/-- A dot in any of its forms is decoded to a dot. -/
theorem percentDecode_dotForm {form : List Char} (dot : form.map Char.toLower ∈ dotForms)
    (rest : List Char) : percentDecode (form ++ rest) = 46 :: percentDecode rest := by
  have plain {character lower : Char} (low : lower.toNat < 97)
      (same : character.toLower = lower) : character = lower := by
    obtain equal | ⟨upper, equal⟩ := of_toLower_eq same
    · exact equal
    · omega
  simp only [dotForms, List.mem_cons, List.not_mem_nil, or_false, List.map_eq_cons_iff,
    List.map_eq_nil_iff] at dot
  obtain ⟨first, tail, rfl, one, rfl⟩ | ⟨first, tail, rfl, one, second, tail, rfl, two, third, tail,
    rfl, three, rfl⟩ := dot
  · obtain rfl := plain (by decide) one
    exact percentDecode_cons (by decide) rest
  · obtain rfl := plain (by decide) one
    obtain rfl := plain (by decide) two
    have digit : Json.hexDigit? third = some 14 := by
      obtain rfl | ⟨-, upper⟩ := of_toLower_eq three
      · decide
      · have code : third.toNat = 69 := Nat.add_right_cancel upper
        simp [Json.hexDigit?, code]
    have two : Json.hexDigit? '2' = some 2 := by decide
    simp [percentDecode, digit, two]

/-- A segment that counts as a dot is decoded to one. -/
theorem percentDecode_of_isDot {segment : List Char} (dot : isDot segment = true) :
    percentDecode segment = Utf8.encode ['.'] := by
  have form : segment.map Char.toLower ∈ dotForms := by
    simpa [isDot, dotForms, ← String.toList_inj] using dot
  have decoded := percentDecode_dotForm form []
  rwa [List.append_nil] at decoded

/-- A segment that counts as two dots is decoded to two. -/
theorem percentDecode_of_isDoubleDot {segment : List Char} (dots : isDoubleDot segment = true) :
    percentDecode segment = Utf8.encode ['.', '.'] := by
  have forms : ∃ first ∈ dotForms, ∃ second ∈ dotForms,
      segment.map Char.toLower = first ++ second := by
    simpa [isDoubleDot, dotForms, ← String.toList_inj, or_assoc] using dots
  obtain ⟨_, first, _, second, whole⟩ := forms
  obtain ⟨front, back, rfl, rfl, rfl⟩ := List.map_eq_append_iff.mp whole
  have last := percentDecode_dotForm second []
  rw [List.append_nil] at last
  rw [percentDecode_dotForm first, last]
  rfl

/-- Where an encoded text has a character from: it is a percent sign, a digit of a byte, or a
character of the text that stands for itself. -/
theorem mem_percentEncode {text : List Char} {character : Char}
    (inside : character ∈ percentEncode text) :
    character = '%' ∨ isHexadecimal character = true ∨
      (character ∈ text ∧ isEncodedInPath character = false) := by
  obtain ⟨source, member, inside⟩ := List.mem_flatMap.mp inside
  split at inside
  · obtain ⟨byte, -, inside⟩ := List.mem_flatMap.mp inside
    obtain ⟨high, low⟩ := byte_digits byte
    simp only [percentEncodeByte, List.mem_cons, List.not_mem_nil, or_false] at inside
    obtain rfl | rfl | rfl := inside
    · exact .inl rfl
    · exact .inr (.inl (isHexadecimal_upperHexDigit high))
    · exact .inr (.inl (isHexadecimal_upperHexDigit low))
  · rename_i plain
    obtain rfl := List.mem_singleton.mp inside
    exact .inr (.inr ⟨member, Bool.of_not_eq_true plain⟩)

/-- A delimiter that is encoded does not occur in an encoded text. -/
theorem not_mem_percentEncode {delimiter : Char} (encoded : isEncodedInPath delimiter = true)
    (unlike : delimiter ≠ '%') (noDigit : isHexadecimal delimiter = false) (text : List Char) :
    delimiter ∉ percentEncode text := by
  intro inside
  obtain same | digit | ⟨-, plain⟩ := mem_percentEncode inside
  · exact unlike same
  · rw [digit] at noDigit
    cases noDigit
  · rw [encoded] at plain
    cases plain

/-- The characters of a path that a URI cannot hold: they are not encoded, and they are not
allowed. -/
def isUnwritable (character : Char) : Bool := "[]^|".toList.contains character

/-- Every other character is encoded or allowed. -/
theorem writable_iff (character : Char) :
    (isEncodedInPath character || isPathChar character) = !isUnwritable character := by
  by_cases small : character.toNat < 128
  · have table : ∀ code : Fin 128,
        (isEncodedInPath (Char.ofNat code) || isPathChar (Char.ofNat code)) =
          !isUnwritable (Char.ofNat code) := by decide +kernel
    have entry := table ⟨character.toNat, small⟩
    rwa [Char.ofNat_toNat] at entry
  · have encoded : isEncodedInPath character = true := by
      simp only [isEncodedInPath, Bool.or_eq_true, decide_eq_true_eq]
      omega
    have writable : isUnwritable character = false := by
      simp only [isUnwritable, List.contains_eq_mem, decide_eq_false_iff_not]
      intro member
      have codes : "[]^|".toList.all (·.toNat < 128) = true := by decide
      exact small (of_decide_eq_true (List.all_eq_true.mp codes character member))
    rw [encoded, writable]
    rfl

/-- A percent-encoded byte is allowed everywhere. -/
theorem allowed_encodedByte (isAllowed : Char → Bool) (byte : UInt8) (rest : List Char) :
    allowed isAllowed (percentEncodeByte byte ++ rest) = allowed isAllowed rest := by
  obtain ⟨high, low⟩ := byte_digits byte
  simp only [percentEncodeByte, List.cons_append, List.nil_append, allowed,
    isHexadecimal_upperHexDigit high, isHexadecimal_upperHexDigit low, Bool.true_and]

/-- Percent-encoded bytes are allowed everywhere. -/
theorem allowed_encodedBytes (isAllowed : Char → Bool) (bytes : List UInt8) (rest : List Char) :
    allowed isAllowed (bytes.flatMap percentEncodeByte ++ rest) = allowed isAllowed rest := by
  induction bytes with
  | nil => rfl
  | cons byte bytes inductionHypothesis =>
    rw [List.flatMap_cons, List.append_assoc, allowed_encodedByte, inductionHypothesis]

/-- A character other than the percent sign is allowed or not. -/
theorem allowed_cons (isAllowed : Char → Bool) {character : Char} (plain : character ≠ '%')
    (rest : List Char) :
    allowed isAllowed (character :: rest) = (isAllowed character && allowed isAllowed rest) := by
  rw [allowed]
  · rw [bne_iff_ne.mpr plain, Bool.true_and]
  · rintro high low rest ⟨⟩
    exact absurd rfl plain

/-- An encoded text is allowed in a path unless the text holds an unwritable character. -/
theorem allowed_percentEncode (text rest : List Char) :
    allowed isPathChar (percentEncode text ++ rest) =
      (text.all (!isUnwritable ·) && allowed isPathChar rest) := by
  induction text with
  | nil => rfl
  | cons character text inductionHypothesis =>
    rw [percentEncode] at inductionHypothesis ⊢
    rw [List.flatMap_cons, List.append_assoc, List.all_cons, Bool.and_assoc,
      ← inductionHypothesis, ← writable_iff]
    split
    · rename_i encoded
      rw [allowed_encodedBytes, encoded]
      rfl
    · rename_i plain
      rw [List.singleton_append, allowed_cons _ (ne_percent plain),
        Bool.of_not_eq_true plain]
      rfl

end LanguageClient.Uri
