import LanguageClient.CompileStatus
import LanguageClient.Position
import LanguageClient.Rpc.Message

/-!
# Notifications from the server

The notifications that the client acts on, decoded by their method. A notification of any other
method is accepted and only remembered by its name.
-/

namespace LanguageClient

/-- A request to reveal a stretch of a source file. Each end is a line and a character. -/
structure ScrollSource where
  path : String
  start : Option (UInt32 × UInt32)
  stop : Option (UInt32 × UInt32)
deriving DecidableEq, Repr

namespace ScrollSource

/-- The JSON form of an end. -/
def encodeEnd (place : Option (UInt32 × UInt32)) : Json :=
  Json.orNull (place.map fun (line, character) =>
    .array [.ofNat line.toNat, .ofNat character.toNat])

/-- The JSON form of a request to reveal. -/
def encode (scroll : ScrollSource) : Json :=
  .ofFields [("filepath", .string scroll.path), ("start", encodeEnd scroll.start),
    ("end", encodeEnd scroll.stop)]

/-- Members of a request to reveal. -/
def layout : Json.Layout ScrollSource :=
  (Json.Layout.nothing ScrollSource.mk).and (.required "filepath" Json.text)
    |>.and (.optional "start" (Json.pair Json.word32))
    |>.and (.optional "end" (Json.pair Json.word32))

/-- Read a request to reveal. -/
def decode : Json.Decoder ScrollSource := Json.record "ScrollSourceParams" layout

/-- The range to reveal, if both ends are given. -/
def range? (scroll : ScrollSource) : Option Range := do
  let (startLine, startCharacter) ← scroll.start
  let (stopLine, stopCharacter) ← scroll.stop
  some ⟨⟨startLine, startCharacter⟩, ⟨stopLine, stopCharacter⟩⟩

end ScrollSource

/-- The server ended a preview task. -/
structure PreviewDispose where
  taskId : String
deriving DecidableEq, Repr

namespace PreviewDispose

/-- The JSON form of the end of a preview task. -/
def encode (dispose : PreviewDispose) : Json := .ofFields [("taskId", .string dispose.taskId)]

/-- Members of the end of a preview task. -/
def layout : Json.Layout PreviewDispose :=
  (Json.Layout.nothing PreviewDispose.mk).and (.required "taskId" Json.text)

/-- Read the end of a preview task. -/
def decode : Json.Decoder PreviewDispose := Json.record "PreviewDisposeParams" layout

end PreviewDispose

/-- A decoded notification. -/
inductive ServerNotification where
  | compileStatus (status : CompileStatus)
  | scrollSource (scroll : ScrollSource)
  | documentOutline (outline : Json)
  | previewDispose (dispose : PreviewDispose)
  | other (method : String)
deriving DecidableEq, Repr

/-- Decode a notification by its method. -/
def ServerNotification.decode (notification : Rpc.Notification) :
    Except Json.DecodeError ServerNotification :=
  match notification.method with
  | "tinymist/compileStatus" =>
    (CompileStatus.decode notification.params).map .compileStatus
  | "tinymist/preview/scrollSource" => (ScrollSource.decode notification.params).map .scrollSource
  | "tinymist/documentOutline" => .ok (.documentOutline notification.params)
  | "tinymist/preview/dispose" => (PreviewDispose.decode notification.params).map .previewDispose
  | method => .ok (.other method)

end LanguageClient
