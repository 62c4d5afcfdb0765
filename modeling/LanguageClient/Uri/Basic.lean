import LanguageClient.Json.Decode
import LanguageClient.Uri.Fault

/-!
# URIs

A URI is a text in the form of a URI reference. Two URIs are the same when their texts are the
same; nothing is normalized.
-/

namespace LanguageClient

/-- A text in the form of a URI reference. -/
structure Uri where
  text : String
  valid : Uri.isReference text.toList = true
deriving DecidableEq, Repr

namespace Uri

/-- A text as a URI, if it has the form of one. -/
def parse? (text : String) : Option Uri :=
  if form : Uri.isReference text.toList = true then some ⟨text, form⟩ else none

/-- The text before the first colon, or nothing. -/
def scheme (uri : Uri) : String :=
  match Text.cut ':' uri.text.toList with
  | some (scheme, _) => String.ofList scheme
  | none => ""

/-- The text after the first colon, or the whole text. -/
def body (uri : Uri) : List Char :=
  match Text.cut ':' uri.text.toList with
  | some (_, rest) => rest
  | none => uri.text.toList

/-- The JSON form of a URI. -/
def encode (uri : Uri) : Json := .string uri.text

/-- Read a URI from a text; a text of another form is rejected with its first fault. -/
def decode : Json.Decoder Uri := fun value => do
  let text ← Json.text value
  match parse? text with
  | some uri => .ok uri
  | none => .error (.invalidText ((fault? text.toList).getD (.character 0)).message)

end Uri

end LanguageClient
