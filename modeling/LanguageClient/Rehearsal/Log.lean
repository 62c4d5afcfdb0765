import LanguageClient.Call
import LanguageClient.ClientError
import LanguageClient.Editor.Event
import LanguageClient.Transport.Event

/-!
# The log of a rehearsal

The JSON forms in which a rehearsal reports what happened: calls in order, events, errors by
their kind and wording, and the values that operations yield.
-/

namespace LanguageClient.Rehearsal.Log

/-- An error: its kind and its wording. -/
def error (kind message : String) : Json :=
  .ofFields [("error", .string kind), ("message", .string message)]

/-- A success. -/
def ok (value : Json) : Json := .ofFields [("ok", value)]

/-- A value that may be absent: the empty array, or the array of the value. -/
def maybe (value : Option Json) : Json := .array value.toList

/-- The kind of a transport error. -/
def transportKind : Rpc.TransportError → String
  | .serviceStopped => "ServiceStopped"
  | .notStarted => "NotStarted"
  | .malformed | .deserialize _ => "Deserialize"
  | .serialize _ => "Serialize"
  | .response _ => "Response"
  | .requestTimeout _ => "RequestTimeout"
  | .protocol _ => "Protocol"
  | .io _ => "Io"
  | .eof => "Eof"
  | .serverSpawn _ _ => "ServerSpawn"

/-- A transport error. The wording of malformed JSON is not reported. -/
def transportError (cause : Rpc.TransportError) : Json :=
  .ofFields ([("error", .string (transportKind cause))] ++
    (match cause with
    | .malformed => []
    | .response details =>
      [("message", .string cause.message), ("response", details.encode)]
    | _ => [("message", .string cause.message)]))

/-- The kind of an error of a session. -/
def clientKind : ClientError → String
  | .transport _ => "Transport"
  | .duplicateTask _ => "DuplicateTask"
  | .serverBinary _ => "ServerBinary"
  | .unknownCodeLens _ => "UnknownCodeLens"
  | .alreadyStarted => "AlreadyStarted"
  | .notRunning => "NotRunning"
  | .noActiveDocument => "NoActiveDocument"
  | .cancelled => "Cancelled"
  | .editor _ => "Host"

/-- An error of a session, with its cause if it is one of the transport. -/
def clientError (failure : ClientError) : Json :=
  .ofFields ([("error", .string (clientKind failure)), ("message", .string failure.message)] ++
    (match failure with
    | .transport cause => [("cause", transportError cause)]
    | _ => []))

/-- A sum that does not fit its word. -/
def overflow : Json := error "panic" "attempt to add with overflow"

/-- A length for which there is no room. -/
def noRoom : Json := error "panic" "capacity overflow"

/-- A message between client and server. -/
def message : Rpc.Message → Json
  | .request call =>
    .ofFields [("kind", .string "Request"), ("id", call.id.encode),
      ("method", .string call.method), ("fields", .ofFields [("params", call.params)])]
  | .notification notice =>
    .ofFields [("kind", .string "Notification"), ("method", .string notice.method),
      ("fields", .ofFields [("params", notice.params)])]
  | .response answer =>
    .ofFields [("kind", .string "Response"), ("id", answer.id.encode),
      ("fields", .ofFields [("result", maybe answer.result),
        ("error", maybe (answer.error.map Rpc.ResponseError.encode))])]

/-- A status as shown. -/
def display (shown : StatusDisplay) : Json :=
  let level := match shown.level with
    | .progress => "Progress"
    | .success => "Success"
    | .error => "Error"
  .ofFields [("level", .string level), ("text", .string shown.text),
    ("tooltip", .string shown.tooltip)]

/-- A document. -/
def document (document : Document) : Json :=
  .ofFields [("uri", document.uri.encode), ("lang", .string document.language),
    ("version", .ofInt document.version.toInt), ("text", .string document.text)]

/-- An edit of a document. -/
def change (change : ContentChange) : Json :=
  .ofFields [("range", change.range.encode), ("length", .ofNat change.length.toNat),
    ("text", .string change.text)]

/-- An event of the editor. -/
def event : EditorEvent → Json
  | .activeChanged active =>
    .ofFields [("type", .string "active"), ("doc", Json.orNull (active.map document))]
  | .opened opened => .ofFields [("type", .string "opened"), ("doc", document opened)]
  | .changed changed changes =>
    .ofFields [("type", .string "changed"), ("doc", document changed),
      ("changes", .array (changes.map change))]
  | .closed closed => .ofFields [("type", .string "closed"), ("doc", document closed)]

/-- An event of the transport. -/
def arrival : TransportEvent → Json
  | .message body => .ofFields [("message", message body)]
  | .status status =>
    let name := match status with
      | .starting => "Starting"
      | .running => "Running"
      | .stopped => "Stopped"
      | .crashed => "Crashed"
    .ofFields [("status", .string name)]
  | .disconnected => .ofFields [("status", .string "Disconnected")]

/-- The name of a call to the editor and its arguments. -/
def editorCall : EditorCall → String × List Json
  | .showError text => ("show_error", [.string text])
  | .showInfo text => ("show_info", [.string text])
  | .setStatus shown => ("set_status", [display shown])
  | .setFocusIndicator visible => ("set_focus_indicator", [.bool visible])
  | .updateOutline outline => ("update_outline", [outline])
  | .openPreview task started => ("open_preview", [.string task, started.encode])
  | .closePreview task => ("close_preview", [.string task])
  | .showRange path range => ("show_range", [.string path, range.encode])
  | .openDocument path => ("open_document", [.string path])
  | .insertAtCursor text => ("insert_at_cursor", [.string text])
  | .promptTemplate => ("prompt_template", [])
  | .pickFolder => ("pick_folder", [])
  | .pick title items => ("pick", [.string title, .ofTexts items])
  | .openFolder path => ("open_folder", [.string path])
  | .openExternal path => ("open_external", [.string path])

/-- A call to the outside. -/
def call : Call → Json
  | .request request timeout =>
    .ofFields [("request", .ofFields ([("id", request.id.encode),
      ("method", .string request.method), ("params", request.params)] ++
      timeout.toList.map fun limit => ("timeout_ms", .ofNat limit)))]
  | .notification notification => .ofFields [("notification", notification.encode)]
  | .reply id (.result value) =>
    .ofFields [("reply", .ofFields [("id", id.encode), ("result", value)])]
  | .reply id (.error failure) =>
    .ofFields [("reply", .ofFields [("id", id.encode), ("error", failure.encode)])]
  | .start config =>
    .ofFields [("start", .ofFields [("command", .string config.command),
      ("args", .ofTexts config.arguments), ("env", .ofNat config.environment.length),
      ("root_path", .string config.root), ("timeout_secs", .ofNat config.timeoutSeconds)])]
  | .stop => .string "stop"
  | .editor made =>
    let (name, arguments) := editorCall made
    .ofFields [("host", .string name), ("args", .array arguments)]

/-- Calls in order. -/
def trace (calls : Trace) : Json := .array (calls.map call)

/-- The result of something done over a transport. -/
def result {α : Type} (encode : α → Json) : Except Rpc.TransportError α → Json
  | .ok value => encode value
  | .error cause => transportError cause

end LanguageClient.Rehearsal.Log
