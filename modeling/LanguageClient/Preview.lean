import LanguageClient.Settings.Basic

/-!
# Previews

A preview is a task of the server under an identifier that the client chooses. It is started
with arguments in the style of a command line, answers with the addresses it listens on, and is
scrolled by requests that name a place in a source file.
-/

namespace LanguageClient.Preview

/-- Where a preview is shown. -/
inductive Kind where
  | webview
  | browser
deriving DecidableEq, Repr, Inhabited

/-- What a preview is started with. -/
structure Launch where
  taskId : String
  path : String
  kind : Kind
  refresh : RefreshStyle
  theme : Option String
deriving DecidableEq, Repr

/-- The argument list of a launch. -/
def Launch.arguments (launch : Launch) : List String :=
  ["--task-id", launch.taskId, "--refresh-style", launch.refresh.name, "--data-plane-host",
    "127.0.0.1:0"] ++
    (match launch.kind with
    | .browser => ["--open-in-browser", "true"]
    | .webview => []) ++
    (match launch.theme with
    | some theme => ["--theme", theme]
    | none => []) ++
    [launch.path]

/-- What the server answers to a launch. -/
structure Started where
  staticServerPort : Option UInt16
  staticServerAddress : Option String
  dataPlanePort : Option UInt16
  isPrimary : Option Bool
deriving DecidableEq, Repr

namespace Started

/-- Nothing is known about the preview. -/
def unknown : Started := ⟨none, none, none, none⟩

/-- The JSON form of a port. -/
def encodePort (port : Option UInt16) : Json := Json.orNull (port.map fun port => .ofNat port.toNat)

/-- The JSON form of an answer. -/
def encode (started : Started) : Json :=
  .ofFields [("staticServerPort", encodePort started.staticServerPort),
    ("staticServerAddr", .ofText? started.staticServerAddress),
    ("dataPlanePort", encodePort started.dataPlanePort),
    ("isPrimary", Json.orNull (started.isPrimary.map .bool))]

/-- Members of an answer. -/
def layout : Json.Layout Started :=
  (Json.Layout.nothing Started.mk).and
      (.defaulted "staticServerPort" (Json.nullable Json.word16) none)
    |>.and (.defaulted "staticServerAddr" (Json.nullable Json.text) none)
    |>.and (.defaulted "dataPlanePort" (Json.nullable Json.word16) none)
    |>.and (.defaulted "isPrimary" (Json.nullable Json.flag) none)

/-- Read an answer. -/
def decode : Json.Decoder Started := Json.record "PreviewResult" layout

end Started

/-- A place in a source file. -/
structure Place where
  path : String
  line : UInt32
  character : UInt32
deriving DecidableEq, Repr

/-- A request to scroll a preview. -/
inductive Scroll where
  | panelScrollTo (place : Place)
  | changeCursorPosition (place : Place)
deriving DecidableEq, Repr

namespace Scroll

/-- The member that tells the two requests apart. -/
def tagName : String := "event"

/-- The JSON form of a request. -/
def encode (scroll : Scroll) : Json :=
  let (tag, place) :=
    match scroll with
    | .panelScrollTo place => ("panelScrollTo", place)
    | .changeCursorPosition place => ("changeCursorPosition", place)
  .ofFields [(tagName, .string tag), ("filepath", .string place.path),
    ("line", .ofNat place.line.toNat), ("character", .ofNat place.character.toNat)]

/-- Members of a request besides its tag. -/
def layout : Json.Layout Place :=
  (Json.Layout.nothing Place.mk).and (.required "filepath" Json.text)
    |>.and (.required "line" Json.word32)
    |>.and (.required "character" Json.word32)

/-- A request of one kind: how it is built and what it is called in errors. -/
structure Variant where
  build : Place → Scroll
  title : String

/-- The kinds of request by their tags. -/
def variants : List (String × Variant) :=
  [("panelScrollTo", ⟨.panelScrollTo, "PanelScrollTo"⟩),
    ("changeCursorPosition", ⟨.changeCursorPosition, "ChangeCursorPosition"⟩)]

/-- Read a tag. -/
def decodeTag : Json.Decoder Variant
  | .string name => Json.variant variants name
  | other => .error (.invalidType other .variantIdentifier)

/-- Read a request: an object with a tag among its members, or an array that starts with the
tag. The tag is read first. -/
def decode : Json.Decoder Scroll
  | .object members =>
    match Json.find? tagName members with
    | none => .error (.missingField tagName)
    | some tag => do
      let variant ← decodeTag tag
      let place ← layout.fromMembers (members.filter fun (key, _) => key != tagName)
      .ok (variant.build place)
  | .array [] => .error (.missingField tagName)
  | .array (tag :: items) => do
    let variant ← decodeTag tag
    let (place, rest) ←
      layout.ofArray (.variantElements "ScrollRequest" variant.title layout.size) items
    if rest.isEmpty then .ok (variant.build place)
    else .error (.invalidLength items.length (.elements layout.size))
  | other => .error (.invalidType other (.taggedUnion "ScrollRequest"))

end Scroll

end LanguageClient.Preview
