import LanguageClient.Text.Printable

/-!
# Quoted texts

A text between double quotes in which every character is visible. Tab, line feed, carriage
return, the null character, the double quote and the backslash have short escapes; any other
character without a visible form is written by its code in hexadecimal. A single quote stands
for itself.
-/

namespace LanguageClient.Text

/-- Lower-case hexadecimal digits of a number, without leading zeros. -/
def hexadecimal (value : Nat) : List Char := Nat.toDigits 16 value

/-- The written form of one character inside quotes. -/
def quoteChar (character : Char) : List Char :=
  if character = '\x00' then ['\\', '0']
  else if character = '\t' then ['\\', 't']
  else if character = '\r' then ['\\', 'r']
  else if character = '\n' then ['\\', 'n']
  else if character = '"' then ['\\', '"']
  else if character = '\\' then ['\\', '\\']
  else if isEscaped character then
    ['\\', 'u', '\x7b'] ++ hexadecimal character.toNat ++ ['\x7d']
  else [character]

/-- A text in double quotes with every character visible. -/
def quote (text : List Char) : List Char := '"' :: text.flatMap quoteChar ++ ['"']

/-- The quoted form of a string. -/
def quoted (text : String) : String := String.ofList (quote text.toList)

/-- A set of names as shown to a developer: quoted, in order, between braces. -/
def quotedSet (names : List String) : String :=
  "\x7b" ++ ", ".intercalate (names.map quoted) ++ "\x7d"

end LanguageClient.Text
