import LanguageClient.Json.Basic

/-!
# Writing JSON

The compact form: no blanks, members in the order in which the object holds them. Inside a
string only the double quote, the backslash and the control characters below the space are
escaped; every other character stands for itself.
-/

namespace LanguageClient.Json

/-- One lower-case hexadecimal digit. -/
def hexDigit (value : Nat) : Char :=
  if value < 10 then Char.ofNat (48 + value) else Char.ofNat (87 + value)

/-- The written form of one character inside a string. -/
def writeChar (character : Char) : List Char :=
  if character = '"' then ['\\', '"']
  else if character = '\\' then ['\\', '\\']
  else if character = '\x08' then ['\\', 'b']
  else if character = '\t' then ['\\', 't']
  else if character = '\n' then ['\\', 'n']
  else if character = '\x0c' then ['\\', 'f']
  else if character = '\r' then ['\\', 'r']
  else if character.toNat < 0x20 then
    ['\\', 'u', '0', '0', hexDigit (character.toNat / 16), hexDigit (character.toNat % 16)]
  else [character]

/-- The written form of a string, with its quotes. -/
def writeString (text : List Char) : List Char := '"' :: text.flatMap writeChar ++ ['"']

mutual

/-- The compact written form of a value. -/
def write : Json → List Char
  | .null => ['n', 'u', 'l', 'l']
  | .bool true => ['t', 'r', 'u', 'e']
  | .bool false => ['f', 'a', 'l', 's', 'e']
  | .number value => value.write
  | .string value => writeString value.toList
  | .array items => '[' :: writeItems items
  | .object members => '\x7b' :: writeMembers members

/-- Items up to and including the closing bracket. -/
def writeItems : List Json → List Char
  | [] => [']']
  | [item] => write item ++ [']']
  | item :: items => write item ++ ',' :: writeItems items

/-- Members up to and including the closing brace. -/
def writeMembers : List (String × Json) → List Char
  | [] => ['\x7d']
  | [(key, value)] => writeString key.toList ++ ':' :: write value ++ ['\x7d']
  | (key, value) :: members =>
    writeString key.toList ++ ':' :: write value ++ ',' :: writeMembers members

end

/-- The compact written form of a value as a string. -/
def render (value : Json) : String := String.ofList (write value)

end LanguageClient.Json
