import LanguageClient.Text.Split

/-!
# The form of a URI reference

The generic form of URI references: an optional scheme, an optional authority after two slashes,
a path, an optional query after a question mark and an optional fragment after a number sign.
All characters are ASCII; any other character is written as percent signs with two hexadecimal
digits each. The first segment of a reference without a scheme holds no colon. An address in
brackets is one of eight groups.
-/

namespace LanguageClient.Uri

/-- ASCII letters. -/
def isLetter (character : Char) : Bool :=
  ('a' ≤ character && character ≤ 'z') || ('A' ≤ character && character ≤ 'Z')

/-- ASCII digits. -/
def isDigit (character : Char) : Bool := '0' ≤ character && character ≤ '9'

/-- Hexadecimal digits of either case. -/
def isHexadecimal (character : Char) : Bool :=
  isDigit character || ('a' ≤ character && character ≤ 'f') || ('A' ≤ character && character ≤ 'F')

/-- Characters without a reserved purpose. -/
def isUnreserved (character : Char) : Bool :=
  isLetter character || isDigit character || "-._~".toList.contains character

/-- Delimiters inside a component. -/
def isSubDelimiter (character : Char) : Bool := "!$&'()*+,;=".toList.contains character

/-- Characters of a host name. -/
def isNameChar (character : Char) : Bool := isUnreserved character || isSubDelimiter character

/-- Characters of the user part of an authority. -/
def isUserChar (character : Char) : Bool := isNameChar character || character == ':'

/-- Characters of a path segment. -/
def isSegmentChar (character : Char) : Bool := isUserChar character || character == '@'

/-- Characters of a path. -/
def isPathChar (character : Char) : Bool := isSegmentChar character || character == '/'

/-- Characters of a query or fragment. -/
def isQueryChar (character : Char) : Bool := isPathChar character || character == '?'

/-- Whether a text consists of allowed characters and percent-encoded octets. -/
def allowed (isAllowed : Char → Bool) : List Char → Bool
  | [] => true
  | '%' :: high :: low :: rest =>
    isHexadecimal high && isHexadecimal low && allowed isAllowed rest
  | character :: rest => character != '%' && isAllowed character && allowed isAllowed rest

/-- Characters of a scheme after its first letter. -/
def isSchemeChar (character : Char) : Bool :=
  isLetter character || isDigit character || "+-.".toList.contains character

/-- Whether a text is a scheme. -/
def isScheme : List Char → Bool
  | [] => false
  | first :: rest => isLetter first && rest.all isSchemeChar

/-- A decimal octet without a superfluous zero. -/
def isDecimalOctet (text : List Char) : Bool :=
  match text with
  | [] => false
  | '0' :: _ :: _ => false
  | _ => text.all isDigit && text.length ≤ 3 &&
    text.foldl (fun value digit => value * 10 + (digit.toNat - 48)) 0 ≤ 255

/-- Four decimal octets between points. -/
def isAddress4 (text : List Char) : Bool :=
  let octets := Text.split '.' text
  octets.length == 4 && octets.all isDecimalOctet

/-- A group of one to four hexadecimal digits. -/
def isGroup (text : List Char) : Bool :=
  !text.isEmpty && text.length ≤ 4 && text.all isHexadecimal

/-- The number of groups in a list of them, where the last may be an address of four octets that
counts as two. Anything else gives no number. -/
def countGroups : List (List Char) → Option Nat
  | [] => some 0
  | [last] => if isGroup last then some 1 else if isAddress4 last then some 2 else none
  | group :: groups => if isGroup group then (countGroups groups).map (· + 1) else none

/-- The groups of a text; the empty text has none. -/
def groups (text : List Char) : List (List Char) :=
  if text.isEmpty then [] else Text.split ':' text

/-- Cut a text at its first double colon. -/
def cutDoubleColon : List Char → Option (List Char × List Char)
  | ':' :: ':' :: rest => some ([], rest)
  | character :: rest =>
    (cutDoubleColon rest).map fun (before, after) => (character :: before, after)
  | [] => none

/-- Eight groups between colons, or fewer around one double colon. -/
def isAddress6 (text : List Char) : Bool :=
  match cutDoubleColon text with
  | none => countGroups (groups text) == some 8
  | some (before, after) =>
    match (groups before).all isGroup, countGroups (groups after) with
    | true, some count => (groups before).length + count ≤ 7
    | _, _ => false

/-- An optional port after the host: nothing, or a colon and digits. -/
def isPort : List Char → Bool
  | [] => true
  | ':' :: digits => digits.all isDigit
  | _ => false

/-- A host with an optional port. -/
def isHostAndPort : List Char → Bool
  | '[' :: rest =>
    match Text.cut ']' rest with
    | some (address, port) => isAddress6 address && isPort port
    | none => false
  | text =>
    match Text.cut ':' text with
    | some (host, port) => allowed isNameChar host && port.all isDigit
    | none => allowed isNameChar text

/-- An authority: an optional user part before an at sign, then a host with an optional port. -/
def isAuthority (text : List Char) : Bool :=
  match Text.cut '@' text with
  | some (user, host) => allowed isUserChar user && isHostAndPort host
  | none => isHostAndPort text

/-- What follows the scheme and precedes query and fragment. -/
def isHierarchy : List Char → Bool
  | '/' :: '/' :: rest =>
    isAuthority (rest.takeWhile (· != '/')) && allowed isPathChar (rest.dropWhile (· != '/'))
  | text => allowed isPathChar text

/-- Cut at the first occurrence of a character, with nothing after it if it does not occur. -/
def cutOptional (separator : Char) (text : List Char) : List Char × Option (List Char) :=
  match Text.cut separator text with
  | some (before, after) => (before, some after)
  | none => (text, none)

/-- Whether an optional query or fragment is allowed. -/
def isOptionalQuery : Option (List Char) → Bool
  | some text => allowed isQueryChar text
  | none => true

/-- A reference without scheme, query and fragment: its first segment has no colon. -/
def isRelative (text : List Char) : Bool :=
  !(text.takeWhile (· != '/')).contains ':' && isHierarchy text

/-- Whether a text is a URI reference. -/
def isReference (text : List Char) : Bool :=
  let (text, fragment) := cutOptional '#' text
  let (text, query) := cutOptional '?' text
  isOptionalQuery fragment && isOptionalQuery query &&
    match Text.cut ':' text with
    | some (scheme, rest) => (isScheme scheme && isHierarchy rest) || isRelative text
    | none => isRelative text

end LanguageClient.Uri
