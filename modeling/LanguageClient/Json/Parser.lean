import LanguageClient.Json.Basic
import LanguageClient.Json.Numeral

/-!
# Reading JSON

A reader takes a value from the front of a text and leaves the rest. Nesting is bounded by an
explicit depth: an array or object uses one level, and a text that needs more levels than
allowed is rejected. Blanks are the space, the tab, the line feed and the carriage return.
Members of one key replace each other, the last one wins.
-/

namespace LanguageClient.Json

/-- Blanks between tokens. -/
def isSpace (character : Char) : Bool :=
  character == ' ' || character == '\n' || character == '\t' || character == '\r'

/-- Drop blanks from the front. -/
def skipSpaces (text : List Char) : List Char := text.dropWhile isSpace

/-- A character of a string, or a code unit given in hexadecimal. -/
inductive Piece where
  | character (value : Char)
  | codeUnit (value : Nat)
deriving DecidableEq, Repr

/-- The value of a hexadecimal digit. -/
def hexDigit? (character : Char) : Option Nat :=
  let code := character.toNat
  if 48 ≤ code ∧ code ≤ 57 then some (code - 48)
  else if 65 ≤ code ∧ code ≤ 70 then some (code - 55)
  else if 97 ≤ code ∧ code ≤ 102 then some (code - 87)
  else none

/-- The code unit of four hexadecimal digits. -/
def codeUnit? (first second third fourth : Char) : Option Nat := do
  let a ← hexDigit? first
  let b ← hexDigit? second
  let c ← hexDigit? third
  let d ← hexDigit? fourth
  some (((a * 16 + b) * 16 + c) * 16 + d)

/-- The character of a one-letter escape. -/
def escaped? (letter : Char) : Option Char :=
  if letter = '"' then some '"'
  else if letter = '\\' then some '\\'
  else if letter = '/' then some '/'
  else if letter = 'b' then some '\x08'
  else if letter = 'f' then some '\x0c'
  else if letter = 'n' then some '\n'
  else if letter = 'r' then some '\r'
  else if letter = 't' then some '\t'
  else none

/-- The pieces of a string up to its closing quote. -/
def readPieces : List Char → Option (List Piece × List Char)
  | [] => none
  | '"' :: rest => some ([], rest)
  | '\\' :: 'u' :: first :: second :: third :: fourth :: rest => do
    let code ← codeUnit? first second third fourth
    let (pieces, rest) ← readPieces rest
    some (.codeUnit code :: pieces, rest)
  | '\\' :: letter :: rest => do
    let character ← escaped? letter
    let (pieces, rest) ← readPieces rest
    some (.character character :: pieces, rest)
  | character :: rest =>
    if character.toNat < 0x20 || character = '\\' then none
    else do
      let (pieces, rest) ← readPieces rest
      some (.character character :: pieces, rest)

/-- Code units that open a pair. -/
def isHighSurrogate (code : Nat) : Bool := 0xD800 ≤ code && code ≤ 0xDBFF

/-- Code units that close a pair. -/
def isLowSurrogate (code : Nat) : Bool := 0xDC00 ≤ code && code ≤ 0xDFFF

/-- The characters of pieces. A surrogate is valid only as half of a pair. -/
def joinPieces : List Piece → Option (List Char)
  | [] => some []
  | .character value :: rest => (joinPieces rest).map (value :: ·)
  | .codeUnit high :: .codeUnit low :: rest =>
    if isHighSurrogate high then
      if isLowSurrogate low then
        (joinPieces rest).map
          (Char.ofNat (0x10000 + (high - 0xD800) * 0x400 + (low - 0xDC00)) :: ·)
      else none
    else if isLowSurrogate high then none
    else (joinPieces (.codeUnit low :: rest)).map (Char.ofNat high :: ·)
  | .codeUnit code :: rest =>
    if isHighSurrogate code || isLowSurrogate code then none
    else (joinPieces rest).map (Char.ofNat code :: ·)

/-- A string after its opening quote. -/
def readString (text : List Char) : Option (String × List Char) := do
  let (pieces, rest) ← readPieces text
  let characters ← joinPieces pieces
  some (String.ofList characters, rest)

/-- A reader takes a value from the front of a text. -/
abbrev Reader := List Char → Option (Json × List Char)

/-- Items up to the closing bracket, at least one. The first argument bounds their number. -/
def readItems (item : Reader) : Nat → List Char → Option (List Json × List Char)
  | 0, _ => none
  | fuel + 1, text => do
    let (first, rest) ← item (skipSpaces text)
    match skipSpaces rest with
    | ']' :: rest => some ([first], rest)
    | ',' :: rest => do
      let (items, rest) ← readItems item fuel rest
      some (first :: items, rest)
    | _ => none

/-- Members up to the closing brace, at least one. The first argument bounds their number. -/
def readMembers (item : Reader) : Nat → List Char → Option (List (String × Json) × List Char)
  | 0, _ => none
  | fuel + 1, text =>
    match skipSpaces text with
    | '"' :: rest => do
      let (key, rest) ← readString rest
      match skipSpaces rest with
      | ':' :: rest => do
        let (value, rest) ← item (skipSpaces rest)
        match skipSpaces rest with
        | '\x7d' :: rest => some ([(key, value)], rest)
        | ',' :: rest => do
          let (members, rest) ← readMembers item fuel rest
          some ((key, value) :: members, rest)
        | _ => none
      | _ => none
    | _ => none

/-- An array after its opening bracket. -/
def readArray (item : Reader) (text : List Char) : Option (Json × List Char) :=
  match skipSpaces text with
  | ']' :: rest => some (.array [], rest)
  | _ => do
    let (items, rest) ← readItems item (text.length + 1) text
    some (.array items, rest)

/-- An object after its opening brace. -/
def readObject (item : Reader) (text : List Char) : Option (Json × List Char) :=
  match skipSpaces text with
  | '\x7d' :: rest => some (.object [], rest)
  | _ => do
    let (members, rest) ← readMembers item (text.length + 1) text
    some (ofFields members, rest)

/-- A value that is neither an array nor an object. -/
def readScalar : Reader
  | 'n' :: 'u' :: 'l' :: 'l' :: rest => some (.null, rest)
  | 't' :: 'r' :: 'u' :: 'e' :: rest => some (.bool true, rest)
  | 'f' :: 'a' :: 'l' :: 's' :: 'e' :: rest => some (.bool false, rest)
  | '"' :: rest => do
    let (text, rest) ← readString rest
    some (.string text, rest)
  | text => do
    let (numeral, rest) ← Numeral.read text
    some (.number numeral, rest)

/-- A value with at most the given number of levels. -/
def readValue : Nat → Reader
  | 0, text => readScalar text
  | depth + 1, text =>
    match text with
    | '[' :: rest => readArray (readValue depth) rest
    | '\x7b' :: rest => readObject (readValue depth) rest
    | _ => readScalar text

/-- A text that holds exactly one value, with blanks around it. -/
def parse (depth : Nat) (text : List Char) : Option Json :=
  match readValue depth (skipSpaces text) with
  | some (value, rest) => if (skipSpaces rest).isEmpty then some value else none
  | none => none

end LanguageClient.Json
