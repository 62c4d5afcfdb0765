import LanguageClient.Editor.Event
import LanguageClient.Preview
import LanguageClient.Rehearsal.Description
import LanguageClient.Rpc.Body
import LanguageClient.Settings.Variables
import LanguageClient.Transport.Event
import LanguageClient.ExportFormat

/-!
# Described values

How the values that a rehearsal works with are described: documents, editor events, variables,
preview launches and transport events.
-/

namespace LanguageClient.Rehearsal

namespace Read

/-- A color theme by its name. -/
def theme : Reader ColorTheme :=
  oneOf [("Light", .light), ("Dark", .dark), ("HighContrast", .highContrast),
    ("HighContrastLight", .highContrastLight)]

/-- A workspace folder: its path, or its name and path. -/
def folder : Reader WorkspaceFolder
  | _, .string path => .ok (.ofPath path)
  | _, value => do
    let name ← textOf value "name"
    let path ← textOf value "path"
    return ⟨name, path⟩

/-- What placeholders expand to. -/
def bindings : Reader Variables := fun _ value => do
  let folders ← defaulted (list folder) value "folders" []
  let file ← optional text value "file"
  let line ← optional word value "line"
  let selected ← optional text value "selected"
  let workingDirectory ← optional text value "cwd"
  let home ← optional text value "home"
  let environment ← defaulted textMembers value "env" []
  let theme ← defaulted theme value "theme" .light
  return ⟨folders, file, line, selected, workingDirectory, home, environment,
    valueOf value "config", theme⟩

/-- A URI. -/
def uri : Reader Uri := fun name value => do
  match Uri.parse? (← text name value) with
  | some found => .ok found
  | none => .error .invalidUri

/-- A document. The URI is looked at last. -/
def document : Reader Document := fun _ value => do
  let address ← textOf value "uri"
  let language ← defaulted text value "lang" "typst"
  let version ← defaulted int value "version" 1
  let content ← defaulted text value "text" ""
  let uri ← uri "uri" (.string address)
  return ⟨uri, language, Int32.ofInt version, content⟩

/-- Documents. -/
def documents : Reader (List Document) := list document

/-- A position as an array of line and character. -/
def position : Reader Position
  | name, .array [line, character] => do
    let line ← word name line
    let character ← word name character
    return ⟨line, character⟩
  | name, _ => complain name

/-- An edit of a document. -/
def change : Reader ContentChange := fun _ value => do
  let start ← required position value "start"
  let stop ← required position value "end"
  let length ← defaulted word value "length" 0
  let replacement ← defaulted text value "text" ""
  return ⟨⟨start, stop⟩, length, replacement⟩

/-- An event of the editor. -/
def event : Reader EditorEvent := fun _ value => do
  match ← textOf value "type" with
  | "active" => return .activeChanged (← optional document value "doc")
  | "opened" => return .opened (← required document value "doc")
  | "closed" => return .closed (← required document value "doc")
  | "changed" =>
    let document ← required document value "doc"
    return .changed document (← defaulted (list change) value "changes" [])
  | _ => complain "type"

/-- Where a preview is shown. -/
def previewKind : Reader Preview.Kind := oneOf [("Webview", .webview), ("Browser", .browser)]

/-- The launch of a preview. -/
def launch : Reader Preview.Launch := fun _ value => do
  let task ← textOf value "task_id"
  let path ← textOf value "path"
  let kind ← defaulted previewKind value "kind" .webview
  let refresh ← defaulted (oneOf [("OnType", .onType), ("OnSave", .onSave)]) value "refresh"
    .onType
  let theme ← optional text value "theme"
  return ⟨task, path, kind, refresh, theme⟩

/-- A message of the server. -/
def message : Reader Rpc.Message := fun _ value => (Rpc.Message.ofJson value).mapError .message

/-- An event of the transport. -/
def arrival : Reader TransportEvent := fun _ value =>
  match value.member? "message" with
  | some body => (message "message" body).map .message
  | none =>
    required (oneOf [("Starting", .status .starting), ("Running", .status .running),
      ("Stopped", .status .stopped), ("Crashed", .status .crashed),
      ("Disconnected", .disconnected)]) value "status"

/-- An export format by its name. -/
def format : Reader ExportFormat := fun name value => do
  match ExportFormat.ofName? (← text name value) with
  | some found => .ok found
  | none => complain name

end Read

end LanguageClient.Rehearsal
