import LanguageClient.Connection
import LanguageClient.Editor.Event

/-!
# Telling the server about other documents

Documents of the primary language reach the server in another way. Every other document with a
file or untitled URI is announced here: its opening with the full text, each of its changes with
all edits in order, and its closing. Nothing is merged, repeated or held back.
-/

namespace LanguageClient.DocumentSync

/-- The schemes of documents that are announced. -/
def schemes : List String := ["file", "untitled"]

/-- Whether a document is announced, given the primary language. -/
def qualifies (primary : String) (document : Document) : Bool :=
  document.language != primary && schemes.contains document.scheme

/-- What the server is told about an opened document. -/
def openedParams (document : Document) : Json :=
  .ofFields [("textDocument", .ofFields [("uri", document.uri.encode),
    ("languageId", .string document.language), ("version", .ofInt document.version.toInt),
    ("text", .string document.text)])]

/-- The JSON form of one edit. -/
def encodeChange (change : ContentChange) : Json :=
  .ofFields [("range", change.range.encode), ("rangeLength", .ofNat change.length.toNat),
    ("text", .string change.text)]

/-- What the server is told about a changed document. -/
def changedParams (document : Document) (changes : List ContentChange) : Json :=
  .ofFields [("textDocument", .ofFields [("uri", document.uri.encode),
      ("version", .ofInt document.version.toInt)]),
    ("contentChanges", .array (changes.map encodeChange))]

/-- What the server is told about a closed document. -/
def closedParams (document : Document) : Json :=
  .ofFields [("textDocument", .ofFields [("uri", document.uri.encode)])]

/-- The notification that announces an event, if it is announced. -/
def announcement? (primary : String) : EditorEvent → Option Rpc.Notification
  | .opened document =>
    if qualifies primary document then some ⟨"textDocument/didOpen", openedParams document⟩
    else none
  | .changed document changes =>
    if qualifies primary document then
      some ⟨"textDocument/didChange", changedParams document changes⟩
    else none
  | .closed document =>
    if qualifies primary document then some ⟨"textDocument/didClose", closedParams document⟩
    else none
  | .activeChanged _ => none

/-- Announce an event; tells whether a notification was sent. -/
def forward (peer : Peer) (primary : String) (event : EditorEvent) : Connection.Action Bool := do
  match announcement? primary event with
  | some notification =>
    Connection.notify peer notification.method notification.params
    return true
  | none => return false

/-- Announce documents as opened, in order. The first failure ends the announcements. -/
def announceAll (peer : Peer) : List Document → Connection.Action Unit
  | [] => return
  | document :: documents => do
    Connection.notify peer "textDocument/didOpen" (openedParams document)
    announceAll peer documents

/-- Announce all documents that qualify as opened, in order; tells how many there were. -/
def replay (peer : Peer) (primary : String) (documents : List Document) :
    Connection.Action Nat := do
  let qualifying := documents.filter (qualifies primary)
  announceAll peer qualifying
  return qualifying.length

end LanguageClient.DocumentSync
