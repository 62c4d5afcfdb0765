import LanguageClient.Text.Utf8

/-!
# Decoding undoes encoding

The scan of an encoded character finds that character and leaves what follows it. Decoding an
encoded text therefore gives the text back, whatever characters the text is made of. Conversely
every character has one form only, the shortest, so bytes that decode are the bytes of the text
they decode to.

A line feed is the only character whose bytes hold a line feed, so a text can be cut into lines
before it is decoded.
-/

namespace LanguageClient.Utf8

/-- A byte that is built from a small number is that number. -/
theorem byte_toNat {code : Nat} (small : code < 256) : (UInt8.ofNat code).toNat = code := by
  simpa using Nat.mod_eq_of_lt small

/-- Codes of characters lie below the surrogates, or above them in the planes. -/
theorem toNat_range (character : Char) :
    character.toNat < 0xD800 ∨ (0xDFFF < character.toNat ∧ character.toNat < 0x110000) :=
  character.valid

/-- Six bits make a continuation byte. -/
theorem isContinuation_of_bits {bits : Nat} (small : bits < 64) :
    isContinuation (UInt8.ofNat (0x80 + bits)) = true := by
  have value : (UInt8.ofNat (0x80 + bits)).toNat = 0x80 + bits := byte_toNat (by omega)
  simp only [isContinuation, value, Bool.and_eq_true, decide_eq_true_eq]
  omega

/-- The two-byte form of a code scans as that code. -/
theorem scan_two {code : Nat} (least : 0x80 ≤ code) (bound : code < 0x800) (rest : List UInt8) :
    scan (UInt8.ofNat (0xC0 + code / 64)) (UInt8.ofNat (0x80 + code % 64) :: rest) =
      .character (Char.ofNat code) rest := by
  have lead : (UInt8.ofNat (0xC0 + code / 64)).toNat = 0xC0 + code / 64 := byte_toNat (by omega)
  have second : (UInt8.ofNat (0x80 + code % 64)).toNat = 0x80 + code % 64 := byte_toNat (by omega)
  have sum : (0xC0 + code / 64 - 0xC0) * 64 + (0x80 + code % 64 - 0x80) = code := by omega
  have continued := isContinuation_of_bits (Nat.mod_lt code (by decide : 0 < 64))
  unfold scan
  simp only [lead]
  rw [if_neg (by omega), if_pos (by simp; omega)]
  simp only [scanTwo, continued, if_true, lead, second, sum]

/-- The three-byte form of a code scans as that code, unless it is a surrogate. The narrowed
second bytes are those of codes that need three bytes and of codes below the surrogates. -/
theorem scan_three {code : Nat} (least : 0x800 ≤ code) (bound : code < 0x10000)
    (range : code < 0xD800 ∨ 0xDFFF < code) (rest : List UInt8) :
    scan (UInt8.ofNat (0xE0 + code / 4096))
      (UInt8.ofNat (0x80 + code / 64 % 64) :: UInt8.ofNat (0x80 + code % 64) :: rest) =
      .character (Char.ofNat code) rest := by
  have lead : (UInt8.ofNat (0xE0 + code / 4096)).toNat = 0xE0 + code / 4096 :=
    byte_toNat (by omega)
  have second : (UInt8.ofNat (0x80 + code / 64 % 64)).toNat = 0x80 + code / 64 % 64 :=
    byte_toNat (by omega)
  have third : (UInt8.ofNat (0x80 + code % 64)).toNat = 0x80 + code % 64 := byte_toNat (by omega)
  have sum : (0xE0 + code / 4096 - 0xE0) * 4096 + (0x80 + code / 64 % 64 - 0x80) * 64 +
      (0x80 + code % 64 - 0x80) = code := by omega
  have narrowed : secondOfThree (UInt8.ofNat (0xE0 + code / 4096))
      (UInt8.ofNat (0x80 + code / 64 % 64)) = true := by
    simp only [secondOfThree, isContinuation, lead, second]
    split
    · simp only [Bool.and_eq_true, decide_eq_true_eq]
      omega
    · split <;> simp only [Bool.and_eq_true, decide_eq_true_eq] <;> omega
  have continued := isContinuation_of_bits (Nat.mod_lt code (by decide : 0 < 64))
  unfold scan
  simp only [lead]
  rw [if_neg (by omega), if_neg (by simp; omega), if_pos (by simp; omega)]
  simp only [scanThree, narrowed, continued, Bool.not_true, Bool.false_eq_true, if_false, lead,
    second, third, sum]

/-- The four-byte form of a code scans as that code. The narrowed second bytes are those of codes
that need four bytes and of codes in the last plane. -/
theorem scan_four {code : Nat} (least : 0x10000 ≤ code) (bound : code < 0x110000)
    (rest : List UInt8) :
    scan (UInt8.ofNat (0xF0 + code / 262144))
      (UInt8.ofNat (0x80 + code / 4096 % 64) :: UInt8.ofNat (0x80 + code / 64 % 64) ::
        UInt8.ofNat (0x80 + code % 64) :: rest) =
      .character (Char.ofNat code) rest := by
  have lead : (UInt8.ofNat (0xF0 + code / 262144)).toNat = 0xF0 + code / 262144 :=
    byte_toNat (by omega)
  have second : (UInt8.ofNat (0x80 + code / 4096 % 64)).toNat = 0x80 + code / 4096 % 64 :=
    byte_toNat (by omega)
  have third : (UInt8.ofNat (0x80 + code / 64 % 64)).toNat = 0x80 + code / 64 % 64 :=
    byte_toNat (by omega)
  have fourth : (UInt8.ofNat (0x80 + code % 64)).toNat = 0x80 + code % 64 := byte_toNat (by omega)
  have sum : (0xF0 + code / 262144 - 0xF0) * 262144 + (0x80 + code / 4096 % 64 - 0x80) * 4096 +
      (0x80 + code / 64 % 64 - 0x80) * 64 + (0x80 + code % 64 - 0x80) = code := by omega
  have narrowed : secondOfFour (UInt8.ofNat (0xF0 + code / 262144))
      (UInt8.ofNat (0x80 + code / 4096 % 64)) = true := by
    simp only [secondOfFour, isContinuation, lead, second]
    split
    · simp only [Bool.and_eq_true, decide_eq_true_eq]
      omega
    · split <;> simp only [Bool.and_eq_true, decide_eq_true_eq] <;> omega
  have continuedThird := isContinuation_of_bits (Nat.mod_lt (code / 64) (by decide : 0 < 64))
  have continuedFourth := isContinuation_of_bits (Nat.mod_lt code (by decide : 0 < 64))
  unfold scan
  simp only [lead]
  rw [if_neg (by omega), if_neg (by simp; omega), if_neg (by simp; omega),
    if_pos (by simp; omega)]
  simp only [scanFour, narrowed, continuedThird, continuedFourth, Bool.not_true,
    Bool.false_eq_true, if_false, lead, second, third, fourth, sum]

/-- Scanning the bytes of a character finds it and leaves what follows. -/
theorem scan_encodeChar (character : Char) (rest : List UInt8) :
    ∃ lead following, encodeChar character = lead :: following ∧
      scan lead (following ++ rest) = .character character rest := by
  have range := toNat_range character
  have same : Char.ofNat character.toNat = character := Char.ofNat_toNat character
  unfold encodeChar
  simp only
  generalize character.toNat = code at range same ⊢
  split
  · have value : (UInt8.ofNat code).toNat = code := byte_toNat (by omega)
    refine ⟨_, _, rfl, ?_⟩
    simp only [scan, value, List.nil_append, same]
    rw [if_pos (by omega)]
  split
  · exact ⟨_, _, rfl, same ▸ scan_two (by omega) (by omega) rest⟩
  split
  · exact ⟨_, _, rfl, same ▸ scan_three (by omega) (by omega) (by omega) rest⟩
  · exact ⟨_, _, rfl, same ▸ scan_four (by omega) (by omega) rest⟩

/-- Decoding the bytes of a text gives the text back, at every index. -/
theorem decodeFrom_encode (text : List Char) (index : Nat) :
    decodeFrom index (encode text) = .ok text := by
  induction text generalizing index with
  | nil =>
    unfold decodeFrom
    rfl
  | cons character text inductionHypothesis =>
    obtain ⟨lead, following, bytes, scanned⟩ := scan_encodeChar character (encode text)
    have split : encode (character :: text) = lead :: (following ++ encode text) := by
      simp [encode, bytes]
    rw [split]
    unfold decodeFrom
    split
    · rename_i value left found
      obtain ⟨rfl, rfl⟩ := Scan.character.inj (scanned.symm.trans found)
      simp only [inductionHypothesis, Except.map]
    · rename_i found
      exact absurd (scanned.symm.trans found) (by simp)
    · rename_i found
      exact absurd (scanned.symm.trans found) (by simp)

/-- Decoding the bytes of a text gives the text back. -/
@[simp] theorem decode_encode (text : List Char) : decode (encode text) = .ok text :=
  decodeFrom_encode text 0

/-- In the bytes of a text there is nothing to replace. -/
theorem decodeLossy_encode (text : List Char) : decodeLossy (encode text) = text := by
  induction text with
  | nil =>
    unfold decodeLossy
    rfl
  | cons character text inductionHypothesis =>
    obtain ⟨lead, following, bytes, scanned⟩ := scan_encodeChar character (encode text)
    have split : encode (character :: text) = lead :: (following ++ encode text) := by
      simp [encode, bytes]
    rw [split]
    unfold decodeLossy
    split
    · rename_i value left found
      obtain ⟨rfl, rfl⟩ := Scan.character.inj (scanned.symm.trans found)
      rw [inductionHypothesis]
    · rename_i found
      exact absurd (scanned.symm.trans found) (by simp)
    · rename_i found
      exact absurd (scanned.symm.trans found) (by simp)

/-- Texts with the same bytes are the same. -/
theorem encode_injective {left right : List Char} (same : encode left = encode right) :
    left = right := by
  have decoded := congrArg decode same
  rw [decode_encode, decode_encode] at decoded
  exact Except.ok.inj decoded

/-- Encoding takes texts apart as appending puts them together. -/
@[simp] theorem encode_append (left right : List Char) :
    encode (left ++ right) = encode left ++ encode right := List.flatMap_append

/-- The length of a text in bytes is that of its parts. -/
@[simp] theorem size_append (left right : List Char) :
    size (left ++ right) = size left + size right := by
  rw [size, encode_append, List.length_append, size, size]

/-- A code below the surrogates, or above them in the planes, is the code of its character. -/
theorem toNat_ofNat {code : Nat}
    (range : code < 0xD800 ∨ (0xDFFF < code ∧ code < 0x110000)) :
    (Char.ofNat code).toNat = code := by
  have valid : code.isValidChar := range
  rw [Char.ofNat, dif_pos valid]
  rfl

/-- The number of a byte makes the byte. -/
theorem ofNat_of_toNat (byte : UInt8) {code : Nat} (same : code = byte.toNat) :
    UInt8.ofNat code = byte := by
  rw [same, UInt8.ofNat_toNat]

/-- A continuation byte lies in the range of six bits above `0x80`. -/
theorem isContinuation_range {byte : UInt8} (continued : isContinuation byte = true) :
    0x80 ≤ byte.toNat ∧ byte.toNat ≤ 0xBF := by
  simpa [isContinuation] using continued

/-- The second byte of a three-byte form continues it, makes it a shortest form and keeps it off the
surrogates. -/
theorem secondOfThree_range {lead second : UInt8} (narrowed : secondOfThree lead second = true) :
    0x80 ≤ second.toNat ∧ second.toNat ≤ 0xBF ∧ (lead.toNat = 0xE0 → 0xA0 ≤ second.toNat) ∧
      (lead.toNat = 0xED → second.toNat ≤ 0x9F) := by
  unfold secondOfThree isContinuation at narrowed
  split at narrowed
  · simp only [Bool.and_eq_true, decide_eq_true_eq] at narrowed
    omega
  · split at narrowed <;> simp only [Bool.and_eq_true, decide_eq_true_eq] at narrowed <;> omega

/-- The second byte of a four-byte form continues it, makes it a shortest form and keeps it in the
planes. -/
theorem secondOfFour_range {lead second : UInt8} (narrowed : secondOfFour lead second = true) :
    0x80 ≤ second.toNat ∧ second.toNat ≤ 0xBF ∧ (lead.toNat = 0xF0 → 0x90 ≤ second.toNat) ∧
      (lead.toNat = 0xF4 → second.toNat ≤ 0x8F) := by
  unfold secondOfFour isContinuation at narrowed
  split at narrowed
  · simp only [Bool.and_eq_true, decide_eq_true_eq] at narrowed
    omega
  · split at narrowed <;> simp only [Bool.and_eq_true, decide_eq_true_eq] at narrowed <;> omega

/-- A two-byte form is that of the character it scans as. -/
theorem encodeChar_of_scanTwo {lead : UInt8} {rest left : List UInt8} {value : Char}
    (least : 0xC2 ≤ lead.toNat) (bound : lead.toNat ≤ 0xDF)
    (scanned : scanTwo lead rest = .character value left) :
    encodeChar value ++ left = lead :: rest := by
  unfold scanTwo at scanned
  split at scanned
  · cases scanned
  · rename_i second others
    split at scanned
    · rename_i continued
      obtain ⟨rfl, rfl⟩ := Scan.character.inj scanned
      have secondRange := isContinuation_range continued
      rw [encodeChar, toNat_ofNat (by omega)]
      rw [if_neg (by omega), if_pos (by omega), ofNat_of_toNat lead (by omega),
        ofNat_of_toNat second (by omega)]
      rfl
    · cases scanned

/-- A three-byte form is that of the character it scans as. -/
theorem encodeChar_of_scanThree {lead : UInt8} {rest left : List UInt8} {value : Char}
    (least : 0xE0 ≤ lead.toNat) (bound : lead.toNat ≤ 0xEF)
    (scanned : scanThree lead rest = .character value left) :
    encodeChar value ++ left = lead :: rest := by
  unfold scanThree at scanned
  split at scanned
  · cases scanned
  · split at scanned <;> cases scanned
  · rename_i second third others
    split at scanned
    · cases scanned
    rename_i narrowed
    split at scanned
    · cases scanned
    rename_i continued
    obtain ⟨rfl, rfl⟩ := Scan.character.inj scanned
    have secondRange := secondOfThree_range (by simpa using narrowed)
    have thirdRange := isContinuation_range (by simpa using continued)
    rw [encodeChar, toNat_ofNat (by omega)]
    rw [if_neg (by omega), if_neg (by omega), if_pos (by omega),
      ofNat_of_toNat lead (by omega), ofNat_of_toNat second (by omega),
      ofNat_of_toNat third (by omega)]
    rfl

/-- A four-byte form is that of the character it scans as. -/
theorem encodeChar_of_scanFour {lead : UInt8} {rest left : List UInt8} {value : Char}
    (least : 0xF0 ≤ lead.toNat) (bound : lead.toNat ≤ 0xF4)
    (scanned : scanFour lead rest = .character value left) :
    encodeChar value ++ left = lead :: rest := by
  unfold scanFour at scanned
  split at scanned
  · cases scanned
  · split at scanned <;> cases scanned
  · split at scanned
    · cases scanned
    split at scanned <;> cases scanned
  · rename_i second third fourth others
    split at scanned
    · cases scanned
    rename_i narrowed
    split at scanned
    · cases scanned
    rename_i continuedThird
    split at scanned
    · cases scanned
    rename_i continuedFourth
    obtain ⟨rfl, rfl⟩ := Scan.character.inj scanned
    have secondRange := secondOfFour_range (by simpa using narrowed)
    have thirdRange := isContinuation_range (by simpa using continuedThird)
    have fourthRange := isContinuation_range (by simpa using continuedFourth)
    rw [encodeChar, toNat_ofNat (by omega)]
    rw [if_neg (by omega), if_neg (by omega), if_neg (by omega),
      ofNat_of_toNat lead (by omega), ofNat_of_toNat second (by omega),
      ofNat_of_toNat third (by omega), ofNat_of_toNat fourth (by omega)]
    rfl

/-- What scans as a character is made of the bytes of that character. -/
theorem encodeChar_of_scan {lead : UInt8} {rest left : List UInt8} {value : Char}
    (scanned : scan lead rest = .character value left) :
    encodeChar value ++ left = lead :: rest := by
  unfold scan at scanned
  simp only [Bool.and_eq_true, decide_eq_true_eq] at scanned
  split at scanned
  · obtain ⟨rfl, rfl⟩ := Scan.character.inj scanned
    rw [encodeChar, toNat_ofNat (by omega)]
    rw [if_pos (by assumption), UInt8.ofNat_toNat]
    rfl
  split at scanned
  · rename_i range
    exact encodeChar_of_scanTwo range.1 range.2 scanned
  split at scanned
  · rename_i range
    exact encodeChar_of_scanThree range.1 range.2 scanned
  split at scanned
  · rename_i range
    exact encodeChar_of_scanFour range.1 range.2 scanned
  · cases scanned

/-- What decodes to a text is made of the bytes of the text, at every index. -/
theorem encode_of_decodeFrom {index : Nat} {bytes : List UInt8} {text : List Char}
    (decoded : decodeFrom index bytes = .ok text) : encode text = bytes := by
  fun_induction decodeFrom index bytes generalizing text with
  | case1 =>
    obtain rfl := Except.ok.inj decoded
    rfl
  | case2 index lead rest value left scanned inductionHypothesis =>
    cases later : decodeFrom (index + (rest.length + 1 - left.length)) left with
    | error fault => simp [later, Except.map] at decoded
    | ok others =>
      rw [later] at decoded
      obtain rfl := Except.ok.inj decoded
      rw [encode, List.flatMap_cons, ← encode, inductionHypothesis later]
      exact encodeChar_of_scan scanned
  | case3 => cases decoded
  | case4 => cases decoded

/-- What decodes to a text is made of the bytes of the text. -/
theorem encode_of_decode {bytes : List UInt8} {text : List Char}
    (decoded : decode bytes = .ok text) : encode text = bytes :=
  encode_of_decodeFrom decoded

/-- A text of characters below `0x80` has one byte for each of them. -/
theorem encode_ascii {text : List Char} (ascii : ∀ character ∈ text, character.toNat < 0x80) :
    encode text = text.map fun character => UInt8.ofNat character.toNat := by
  induction text with
  | nil => rfl
  | cons character text inductionHypothesis =>
    have later := inductionHypothesis fun other member =>
      ascii other (List.mem_cons_of_mem character member)
    have small := ascii character List.mem_cons_self
    rw [encode, List.flatMap_cons, ← encode, later, encodeChar, if_pos small]
    rfl

/-- Where such a text is cut between bytes, it is cut between characters. -/
theorem encode_prefix_ascii {text : List Char} {front : List UInt8}
    (ascii : ∀ character ∈ text, character.toNat < 0x80) (starts : front <+: encode text) :
    ∃ piece, piece <+: text ∧ front = encode piece := by
  rw [encode_ascii ascii, List.prefix_iff_eq_take, ← List.map_take] at starts
  refine ⟨text.take front.length, List.take_prefix _ _, ?_⟩
  rw [encode_ascii fun character member => ascii character (List.mem_of_mem_take member)]
  exact starts

/-- Only a line feed has a line feed among its bytes: every byte of a longer form is at least
`0x80`. -/
theorem lineFeed_mem_encodeChar {character : Char} (member : 10 ∈ encodeChar character) :
    character = '\n' := by
  have code : character.toNat = 10 := by
    have range := toNat_range character
    have small (value : Nat) (bound : value < 256) (equal : 10 = UInt8.ofNat value) :
        value = 10 := by
      simpa [byte_toNat bound] using (congrArg UInt8.toNat equal).symm
    unfold encodeChar at member
    simp only at member
    split at member
    · exact small _ (by omega) (List.mem_singleton.mp member)
    split at member
    · simp only [List.mem_cons, List.not_mem_nil, or_false] at member
      rcases member with equal | equal <;> have := small _ (by omega) equal <;> omega
    split at member
    · simp only [List.mem_cons, List.not_mem_nil, or_false] at member
      rcases member with equal | equal | equal <;> have := small _ (by omega) equal <;> omega
    · simp only [List.mem_cons, List.not_mem_nil, or_false] at member
      rcases member with equal | equal | equal | equal <;>
        have := small _ (by omega) equal <;> omega
  rw [← Char.ofNat_toNat character, code]

/-- A text without a line feed has no line feed among its bytes. -/
theorem lineFeed_not_mem_encode {text : List Char} (absent : '\n' ∉ text) :
    10 ∉ encode text := by
  intro member
  obtain ⟨character, present, inside⟩ := List.mem_flatMap.mp member
  exact absent (lineFeed_mem_encodeChar inside ▸ present)

/-- A text with a line feed has a line feed among its bytes. -/
theorem lineFeed_mem_encode {text : List Char} (member : '\n' ∈ text) : 10 ∈ encode text :=
  List.mem_flatMap.mpr ⟨'\n', member, by decide⟩

end LanguageClient.Utf8
