/-!
# UTF-8 on lists of bytes

Encoding writes every character in the shortest form. Scanning reads one character from the
front and says exactly what is wrong otherwise: a sequence that cannot be continued, with the
number of bytes that belong to it, or a sequence that the end of the input cuts short.

Strict decoding reports the first fault with its index. Lossy decoding replaces every faulty
sequence by one replacement character. Both are driven by the same scan, so they agree on
which bytes form a character.
-/

namespace LanguageClient.Utf8

/-- Bytes of one character, in the shortest form. -/
def encodeChar (character : Char) : List UInt8 :=
  let code := character.toNat
  if code < 0x80 then
    [UInt8.ofNat code]
  else if code < 0x800 then
    [UInt8.ofNat (0xC0 + code / 64), UInt8.ofNat (0x80 + code % 64)]
  else if code < 0x10000 then
    [UInt8.ofNat (0xE0 + code / 4096), UInt8.ofNat (0x80 + code / 64 % 64),
      UInt8.ofNat (0x80 + code % 64)]
  else
    [UInt8.ofNat (0xF0 + code / 262144), UInt8.ofNat (0x80 + code / 4096 % 64),
      UInt8.ofNat (0x80 + code / 64 % 64), UInt8.ofNat (0x80 + code % 64)]

/-- Bytes of a text. -/
def encode (text : List Char) : List UInt8 := text.flatMap encodeChar

/-- Length of a text in bytes. -/
def size (text : List Char) : Nat := (encode text).length

/-- What stands at the front of a nonempty byte list. -/
inductive Scan where
  | character (value : Char) (rest : List UInt8)
  | invalid (length : Nat)
  | incomplete
deriving DecidableEq, Repr

/-- A continuation byte carries six bits. -/
def isContinuation (byte : UInt8) : Bool := 0x80 ≤ byte.toNat && byte.toNat ≤ 0xBF

/-- Second bytes allowed after the lead of a three-byte form. The narrowed cases exclude
overlong forms and surrogates. -/
def secondOfThree (lead second : UInt8) : Bool :=
  if lead.toNat = 0xE0 then 0xA0 ≤ second.toNat && second.toNat ≤ 0xBF
  else if lead.toNat = 0xED then 0x80 ≤ second.toNat && second.toNat ≤ 0x9F
  else isContinuation second

/-- Second bytes allowed after the lead of a four-byte form. The narrowed cases exclude
overlong forms and codes above the last plane. -/
def secondOfFour (lead second : UInt8) : Bool :=
  if lead.toNat = 0xF0 then 0x90 ≤ second.toNat && second.toNat ≤ 0xBF
  else if lead.toNat = 0xF4 then 0x80 ≤ second.toNat && second.toNat ≤ 0x8F
  else isContinuation second

/-- Scan after a lead byte that announces one more byte. -/
def scanTwo (lead : UInt8) : List UInt8 → Scan
  | [] => .incomplete
  | second :: rest =>
    if isContinuation second then
      .character (Char.ofNat ((lead.toNat - 0xC0) * 64 + (second.toNat - 0x80))) rest
    else .invalid 1

/-- Scan after a lead byte that announces two more bytes. -/
def scanThree (lead : UInt8) : List UInt8 → Scan
  | [] => .incomplete
  | [second] => if secondOfThree lead second then .incomplete else .invalid 1
  | second :: third :: rest =>
    if !secondOfThree lead second then .invalid 1
    else if !isContinuation third then .invalid 2
    else .character (Char.ofNat ((lead.toNat - 0xE0) * 4096 + (second.toNat - 0x80) * 64
      + (third.toNat - 0x80))) rest

/-- Scan after a lead byte that announces three more bytes. -/
def scanFour (lead : UInt8) : List UInt8 → Scan
  | [] => .incomplete
  | [second] => if secondOfFour lead second then .incomplete else .invalid 1
  | [second, third] =>
    if !secondOfFour lead second then .invalid 1
    else if isContinuation third then .incomplete
    else .invalid 2
  | second :: third :: fourth :: rest =>
    if !secondOfFour lead second then .invalid 1
    else if !isContinuation third then .invalid 2
    else if !isContinuation fourth then .invalid 3
    else .character (Char.ofNat ((lead.toNat - 0xF0) * 262144 + (second.toNat - 0x80) * 4096
      + (third.toNat - 0x80) * 64 + (fourth.toNat - 0x80))) rest

/-- Scan the sequence that starts with the given lead byte. -/
def scan (lead : UInt8) (rest : List UInt8) : Scan :=
  let code := lead.toNat
  if code < 0x80 then .character (Char.ofNat code) rest
  else if 0xC2 ≤ code && code ≤ 0xDF then scanTwo lead rest
  else if 0xE0 ≤ code && code ≤ 0xEF then scanThree lead rest
  else if 0xF0 ≤ code && code ≤ 0xF4 then scanFour lead rest
  else .invalid 1

/-- Scanning a character never lengthens what is left. -/
theorem scan_rest_length {lead : UInt8} {rest left : List UInt8} {value : Char}
    (scanned : scan lead rest = .character value left) : left.length ≤ rest.length := by
  unfold scan at scanned
  simp only at scanned
  split at scanned
  · exact Nat.le_of_eq (congrArg List.length (Scan.character.inj scanned).2.symm)
  split at scanned
  · unfold scanTwo at scanned
    split at scanned
    · nomatch scanned
    · split at scanned
      · rw [← (Scan.character.inj scanned).2]
        simp
      · nomatch scanned
  split at scanned
  · unfold scanThree at scanned
    split at scanned
    · nomatch scanned
    · split at scanned <;> nomatch scanned
    · split at scanned
      · nomatch scanned
      split at scanned
      · nomatch scanned
      · rw [← (Scan.character.inj scanned).2]
        simp only [List.length_cons]
        omega
  split at scanned
  · unfold scanFour at scanned
    split at scanned
    · nomatch scanned
    · split at scanned <;> nomatch scanned
    · split at scanned
      · nomatch scanned
      split at scanned <;> nomatch scanned
    · split at scanned
      · nomatch scanned
      split at scanned
      · nomatch scanned
      split at scanned
      · nomatch scanned
      · rw [← (Scan.character.inj scanned).2]
        simp only [List.length_cons]
        omega
  · nomatch scanned

/-- The first faulty sequence of a byte list: where it starts, and its length unless the end
of the input cuts it short. -/
structure Fault where
  index : Nat
  length : Option Nat
deriving DecidableEq, Repr

/-- Wording of a fault. -/
def Fault.message (fault : Fault) : String :=
  match fault.length with
  | some length =>
    "invalid utf-8 sequence of " ++ toString length ++ " bytes from index " ++ toString fault.index
  | none => "incomplete utf-8 byte sequence from index " ++ toString fault.index

/-- Decode all bytes, counting from the given index. -/
def decodeFrom (index : Nat) (bytes : List UInt8) : Except Fault (List Char) :=
  match bytes with
  | [] => .ok []
  | lead :: rest =>
    match scanned : scan lead rest with
    | .character value left =>
      (decodeFrom (index + (rest.length + 1 - left.length)) left).map (value :: ·)
    | .invalid length => .error ⟨index, some length⟩
    | .incomplete => .error ⟨index, none⟩
termination_by bytes.length
decreasing_by
  have bound := scan_rest_length scanned
  simp only [List.length_cons]
  omega

/-- Decode all bytes, or report the first fault. -/
def decode (bytes : List UInt8) : Except Fault (List Char) := decodeFrom 0 bytes

/-- The character that stands for a faulty sequence. -/
def replacement : Char := Char.ofNat 0xFFFD

/-- Decode all bytes, with one replacement character for each faulty sequence. -/
def decodeLossy (bytes : List UInt8) : List Char :=
  match bytes with
  | [] => []
  | lead :: rest =>
    match scanned : scan lead rest with
    | .character value left => value :: decodeLossy left
    | .invalid length => replacement :: decodeLossy (rest.drop (length - 1))
    | .incomplete => [replacement]
termination_by bytes.length
decreasing_by
  · have bound := scan_rest_length scanned
    simp only [List.length_cons]
    omega
  · simp only [List.length_drop, List.length_cons]
    omega

end LanguageClient.Utf8
