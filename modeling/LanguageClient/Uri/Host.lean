import LanguageClient.DomainName.Basic
import LanguageClient.Uri.Percent
import LanguageClient.Uri.Reference

/-!
# Hosts

The host of a URI that names a machine: an address in brackets, an address of four bytes, or a
domain name. A text whose last label is a number is an address or nothing; the numbers of an
address are decimal, octal or hexadecimal, and the last one fills the bytes that are left.
-/

namespace LanguageClient.Uri

/-- What names a machine. -/
inductive Host where
  | address6
  | address4 (value : Nat)
  | name (domain : DomainName)
deriving DecidableEq, Repr

namespace Host

/-- This machine. -/
def localHost : Host := .name ⟨["localhost".toList]⟩

/-- The value of a text of digits, if all are digits of a base. -/
def digits? (base : Nat) (text : List Char) : Option Nat :=
  text.foldlM (fun value character => do
    let digit ← Json.hexDigit? character
    if digit < base then some (value * base + digit) else none) 0

/-- The value of a number: hexadecimal after `0x`, octal after another zero, else decimal. A mark
without digits stands for zero. -/
def number? : List Char → Option Nat
  | [] => none
  | '0' :: 'x' :: digits | '0' :: 'X' :: digits => digits? 16 digits
  | '0' :: digit :: digits => digits? 8 (digit :: digits)
  | text => digits? 10 text

/-- Whether a label counts as a number: it has one as its value, or consists of digits. -/
def isNumeric (label : List Char) : Bool :=
  (!label.isEmpty && label.all isDigit) || (number? label).isSome

/-- Whether the last label of a name counts as a number. -/
def endsInNumber (domain : DomainName) : Bool :=
  domain.withoutRoot.getLast?.any isNumeric

/-- The address that numbers stand for: a byte for each but the last, which fills the bytes that
are left. -/
def addressOf? (numbers : List Nat) : Option Nat :=
  match numbers.reverse with
  | [] => none
  | last :: before =>
    if before.length ≤ 3 && before.all (· ≤ 255) && last < Nat.pow 256 (4 - before.length) then
      let upper := before.foldr (fun byte value => value * 256 + byte) 0
      some (upper * Nat.pow 256 (4 - before.length) + last)
    else none

/-- The host that a text names. Its bytes may be percent-encoded. -/
def parse? (text : List Char) : Option Host :=
  match text with
  | '[' :: rest =>
    if rest.getLast? == some ']' && isAddress6 rest.dropLast then some .address6 else none
  | _ => do
    let domain ← DomainName.ofText? (Utf8.decodeLossy (percentDecode text))
    if domain.isEmpty then none
    else if endsInNumber domain then
      (domain.withoutRoot.mapM number?).bind fun numbers => (addressOf? numbers).map .address4
    else some (.name domain)

end Host

end LanguageClient.Uri
