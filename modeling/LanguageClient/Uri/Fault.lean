import LanguageClient.Uri.Reference

/-!
# Where a text stops being a URI reference

A text that is no URI reference has a first place where it goes wrong: a percent sign without
two hexadecimal digits, a character that is not allowed there, or an address in brackets that is
none. Places are counted in characters, which for the part before the fault are ASCII, from
zero.
-/

namespace LanguageClient.Uri

/-- What is wrong with a text, and where. -/
inductive Fault where
  | octet (index : Nat)
  | character (index : Nat)
  | address (index : Nat)
deriving DecidableEq, Repr

/-- Wording of a fault. -/
def Fault.message : Fault → String
  | .octet index => "invalid percent-encoded octet at index " ++ toString index
  | .character index => "unexpected character at index " ++ toString index
  | .address index => "invalid IP literal at index " ++ toString index

/-- What is left of a text, and the index at which it starts. -/
structure Remainder where
  index : Nat
  text : List Char
deriving DecidableEq, Repr

/-- Pass allowed characters and percent-encoded octets, up to the first other character. -/
def passAllowed (isAllowed : Char → Bool) (index : Nat) : List Char → Except Fault Remainder
  | [] => .ok ⟨index, []⟩
  | '%' :: high :: low :: rest =>
    if isHexadecimal high && isHexadecimal low then passAllowed isAllowed (index + 3) rest
    else .error (.octet index)
  | character :: rest =>
    if character == '%' then .error (.octet index)
    else if isAllowed character then passAllowed isAllowed (index + 1) rest
    else .ok ⟨index, character :: rest⟩

namespace Remainder

/-- Pass allowed characters and percent-encoded octets. -/
def pass (isAllowed : Char → Bool) (left : Remainder) : Except Fault Remainder :=
  passAllowed isAllowed left.index left.text

/-- Pass a query or fragment, if its mark comes next. -/
def passAfter (mark : Char) (left : Remainder) : Except Fault Remainder :=
  match left.text with
  | character :: rest =>
    if character == mark then passAllowed isQueryChar (left.index + 1) rest else .ok left
  | [] => .ok left

/-- Check what follows the path. -/
def checkTail (left : Remainder) : Except Fault Unit := do
  let left ← left.passAfter '?'
  let left ← left.passAfter '#'
  if left.text.isEmpty then .ok () else .error (.character left.index)

/-- Check a path and what follows it. -/
def checkPath (left : Remainder) : Except Fault Unit := do
  (← left.pass isPathChar).checkTail

/-- Check what follows an authority: nothing of a path, or a path that starts with a slash. The
octets of the path are looked at first. -/
def checkRootedPath (left : Remainder) : Except Fault Unit := do
  let after ← left.pass isPathChar
  if after.index ≠ left.index && left.text.head? ≠ some '/' then .error (.character left.index)
  else after.checkTail

/-- Pass an address in brackets. -/
def passAddress (left : Remainder) : Except Fault Remainder :=
  match Text.cut ']' (left.text.drop 1) with
  | some (address, rest) =>
    if isAddress6 address then .ok ⟨left.index + address.length + 2, rest⟩
    else .error (.address left.index)
  | none => .error (.address left.index)

/-- Whether an address in brackets comes next. -/
def startsAddress (left : Remainder) : Bool := left.text.head? == some '['

/-- Pass a host after a user part. -/
def passHost (left : Remainder) : Except Fault Remainder :=
  if left.startsAddress then left.passAddress else left.pass isNameChar

/-- Pass a colon and digits, if a colon comes next. -/
def passPort (left : Remainder) : Remainder :=
  match left.text with
  | ':' :: rest =>
    let digits := rest.takeWhile isDigit
    ⟨left.index + 1 + digits.length, rest.drop digits.length⟩
  | _ => left

end Remainder

/-- Check a name with an optional port. One colon divides the two, and the last character of the
port that is no digit is the fault; of several colons it is the first. -/
def checkNameAndPort (index : Nat) (text : List Char) : Except Fault Unit :=
  match text.count ':' with
  | 0 => .ok ()
  | 1 =>
    let digits := (text.reverse.takeWhile isDigit).length
    let last := text.length - 1 - digits
    if text[last]? == some ':' then .ok () else .error (.character (index + last))
  | _ => .error (.character (index + (text.takeWhile (· != ':')).length))

/-- Check an authority and what follows it. -/
def checkAuthority (left : Remainder) : Except Fault Unit := do
  let after ← left.pass isUserChar
  match after.text with
  | '@' :: rest =>
    let host ← Remainder.passHost ⟨after.index + 1, rest⟩
    host.passPort.checkRootedPath
  | _ =>
    if after.index ≠ left.index then
      checkNameAndPort left.index (left.text.take (after.index - left.index))
      after.checkRootedPath
    else if left.startsAddress then (← left.passAddress).passPort.checkRootedPath
    else left.checkRootedPath

/-- Check what follows the scheme. -/
def checkHierarchy (index : Nat) : List Char → Except Fault Unit
  | '/' :: '/' :: rest => checkAuthority ⟨index + 2, rest⟩
  | text => Remainder.checkPath ⟨index, text⟩

/-- Check a reference without a scheme. A colon in its first segment is a fault. -/
def checkRelative (text : List Char) : Except Fault Unit := do
  let left ← passAllowed (fun character => isSegmentChar character && character != ':') 0 text
  if left.text.head? == some ':' then .error (.character left.index)
  else checkHierarchy 0 text

/-- Check that a text is a URI reference. -/
def check (text : List Char) : Except Fault Unit :=
  let scheme := text.takeWhile isSchemeChar
  match text.drop scheme.length with
  | ':' :: rest =>
    if isScheme scheme then checkHierarchy (scheme.length + 1) rest else .error (.character 0)
  | _ => checkRelative text

/-- The first fault of a text, if it has one. -/
def fault? (text : List Char) : Option Fault :=
  match check text with
  | .ok () => none
  | .error fault => some fault

end LanguageClient.Uri
