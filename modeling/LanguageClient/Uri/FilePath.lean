import LanguageClient.Path
import LanguageClient.Uri.Basic
import LanguageClient.Uri.Host

/-!
# URIs and file paths

A URI names a local path when it has a scheme, its path is made of segments, and its host is
empty or the local host. Dot segments are removed, with a percent-encoded dot counting as a dot;
a segment that looks like a drive letter is never removed. Every segment is percent-decoded
afterwards, so a decoded slash does not separate segments.

In the other direction every component of an absolute path becomes one segment. Characters that
a URI segment may not hold are percent-encoded; a few that it may not hold either are not, and a
path with one of them has no URI.
-/

namespace LanguageClient.Uri

/-- A drive letter: one letter and a colon or a bar. -/
def isDriveLetter : List Char → Bool
  | [letter, mark] => isLetter letter && (mark == ':' || mark == '|')
  | _ => false

/-- One dot, possibly percent-encoded. -/
def isDot (segment : List Char) : Bool :=
  [".", "%2e"].contains (String.ofList (segment.map Char.toLower))

/-- Two dots, possibly percent-encoded. -/
def isDoubleDot (segment : List Char) : Bool :=
  ["..", ".%2e", "%2e.", "%2e%2e"].contains (String.ofList (segment.map Char.toLower))

/-- Take the last segment away, unless it is a drive letter. The list is in reverse order. -/
def shorten : List (List Char) → List (List Char)
  | [] => []
  | last :: before => if isDriveLetter last then last :: before else before

/-- Remove dot segments. The first list holds the segments so far in reverse order. A dot
segment at the end leaves an empty segment. -/
def removeDots : List (List Char) → List (List Char) → List (List Char)
  | done, [] => done.reverse
  | done, [last] =>
    if isDoubleDot last then ([] :: shorten done).reverse
    else if isDot last then ([] :: done).reverse
    else (last :: done).reverse
  | done, segment :: segments =>
    if isDoubleDot segment then removeDots (shorten done) segments
    else if isDot segment then removeDots done segments
    else removeDots (segment :: done) segments

/-- The segments of a path text, without dot segments. A leading slash is dropped first. -/
def pathSegments (text : List Char) : List (List Char) :=
  let inside :=
    match text with
    | '/' :: rest => rest
    | _ => text
  removeDots [] (Text.split '/' inside)

/-- Drop empty segments in front, but keep the last segment. -/
def dropEmptyFront : List (List Char) → List (List Char)
  | [] :: next :: segments => dropEmptyFront (next :: segments)
  | segments => segments

/-- The segments of a file URI after its scheme. A host other than this machine is only
forgiven when the path starts with a drive letter; a text that names no host never is. -/
def fileSegments (body : List Char) : Option (List (List Char)) :=
  match body with
  | '/' :: '/' :: rest =>
    let host := rest.takeWhile (· != '/')
    if isDriveLetter host then some (dropEmptyFront (pathSegments rest))
    else
      let segments := pathSegments (rest.dropWhile (· != '/'))
      if host.isEmpty then some (dropEmptyFront segments)
      else
        match Host.parse? host with
        | none => none
        | some named =>
          if named == .localHost || segments.head?.any isDriveLetter then
            some (dropEmptyFront segments)
          else none
  | _ => some (dropEmptyFront (pathSegments body))

/-- An authority as user part, host and port. The user part ends at the last at sign. -/
structure Authority where
  user : Option (List Char)
  host : List Char
  port : Option (List Char)
deriving DecidableEq, Repr

/-- Cut an authority into its parts. A host in brackets keeps its colons. -/
def splitAuthority (text : List Char) : Authority :=
  let (user, hostAndPort) :=
    match Text.cut '@' text.reverse with
    | some (hostAndPort, user) => (some user.reverse, hostAndPort.reverse)
    | none => (none, text)
  match hostAndPort with
  | '[' :: _ => ⟨user, hostAndPort, none⟩
  | _ =>
    let (host, port) := cutOptional ':' hostAndPort
    ⟨user, host, port⟩

/-- Whether a port fits sixteen bits; an empty port does. -/
def portFits : Option (List Char) → Bool
  | none => true
  | some digits => digits.foldl (fun value digit => value * 10 + (digit.toNat - 48)) 0 ≤ 65535

/-- The segments of a URI of a web scheme after its scheme. Any number of slashes may precede
the authority, and the host must be this machine. -/
def webSegments (body : List Char) : Option (List (List Char)) :=
  let rest := body.dropWhile (· == '/')
  let authority := splitAuthority (rest.takeWhile (· != '/'))
  if Host.parse? authority.host == some .localHost && portFits authority.port then
    some (pathSegments (rest.dropWhile (· != '/')))
  else none

/-- Whether an authority without a host can stand: it names no user and no port. -/
def emptyHostStands (authority : Authority) (path : List Char) : Bool :=
  authority.port.isNone &&
    match authority.user with
    | none => true
    | some [] => path.isEmpty
    | some user => user == [':']

/-- The segments of a URI of any other scheme after its scheme. Without a slash in front, the
path is not made of segments. -/
def otherSegments (body : List Char) : Option (List (List Char)) :=
  match body with
  | '/' :: '/' :: rest =>
    let authority := splitAuthority (rest.takeWhile (· != '/'))
    let path := rest.dropWhile (· != '/')
    let stands :=
      if authority.host.isEmpty then emptyHostStands authority path
      else authority.host == "localhost".toList && portFits authority.port
    if stands && !path.isEmpty then some (pathSegments path) else none
  | '/' :: rest => some (pathSegments rest)
  | _ => none

/-- Schemes whose URIs always have an authority. -/
def webSchemes : List (List Char) := ["http", "https", "ws", "wss", "ftp"].map String.toList

/-- The scheme of files. -/
def fileScheme : List Char := "file".toList

/-- The segments of the local path that a URI names, still percent-encoded. -/
def localSegments (text : List Char) : Option (List (List Char)) :=
  match Text.cut ':' text with
  | none => none
  | some (scheme, rest) =>
    if !isScheme scheme then none
    else
      let body := rest.takeWhile fun character => character != '?' && character != '#'
      let name := scheme.map Char.toLower
      if name == fileScheme then fileSegments body
      else if webSchemes.contains name then webSegments body
      else otherSegments body

/-- Bytes of an absolute path with the given encoded segments. A path that ends in a drive
letter is a directory and gets a slash. -/
def pathBytes (segments : List (List Char)) : List UInt8 :=
  let bytes := segments.flatMap fun segment => Utf8.encodeChar '/' ++ percentDecode segment
  match bytes.reverse with
  | mark :: letter :: _ :: _ =>
    if isDriveLetter [Char.ofNat letter.toNat, Char.ofNat mark.toNat] then
      bytes ++ Utf8.encodeChar '/'
    else bytes
  | _ => bytes

/-- The local path that a URI names, if it names one. -/
def filePath? (uri : Uri) : Option (List Char) :=
  (localSegments uri.text.toList).map fun segments => Utf8.decodeLossy (pathBytes segments)

/-- Characters of a path component that are percent-encoded. -/
def isEncodedInPath (character : Char) : Bool :=
  character.toNat ≤ 0x20 || 0x7F ≤ character.toNat ||
    "\"#<>?`\x7b\x7d/%\\".toList.contains character

/-- A path component as a URI segment. -/
def percentEncode (text : List Char) : List Char :=
  text.flatMap fun character =>
    if isEncodedInPath character then (Utf8.encodeChar character).flatMap percentEncodeByte
    else [character]

/-- The segment of a path component; the root and a leading dot have none. -/
def segmentOf : Path.Component → List (List Char)
  | .root | .current => []
  | .parent => [['.', '.']]
  | .normal name => [percentEncode name]

/-- The text of the file URI of an absolute path. -/
def fileText (path : List Char) : List Char :=
  let segments := (Path.components path).flatMap segmentOf
  "file://".toList ++
    if segments.isEmpty then ['/'] else segments.flatMap ('/' :: ·)

/-- The directory that relative paths start from. -/
def workingDirectory : List Char := ['/']

/-- The file URI of a path, if its text has the form of a URI. A relative path starts from the
working directory. -/
def ofFilePath? (path : List Char) : Option Uri :=
  parse? (String.ofList (fileText (Path.join workingDirectory path)))

end LanguageClient.Uri
