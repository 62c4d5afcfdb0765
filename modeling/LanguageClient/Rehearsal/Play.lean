import LanguageClient.Rehearsal.Script
import LanguageClient.Rehearsal.Stage
import LanguageClient.Session.Operation

/-!
# Rehearsing a session

A play is a session with a scripted server and a scripted editor. Its steps are operations of the
session, events from outside, and changes of the script and the stage. Tasks are numbered in the
order in which they are drawn.
-/

namespace LanguageClient.Rehearsal

/-- A session with its scripted surroundings. -/
structure Play where
  session : Session
  /-- Whether the editor's events can end before the session does. -/
  direct : Bool
  stage : Stage
  script : Script
  files : FileSystem
  processId : Json
deriving DecidableEq, Repr

/-- Read the operation of a step. -/
def readOperation (input : Json) : String → Described Session.Operation
  | "start" => return .start
  | "stop" => return .stop
  | "run" => return .run
  | "host_event" => return .handleEvent (← Read.event "event" (valueOf input "event"))
  | "message" => return .handleMessage (← Read.message "value" (valueOf input "value"))
  | "activate_path" => do
    let document ← optional Read.document input "doc"
    return .activatePath document (← optional Read.text input "path")
  | "export" => return .exportActive (← required Read.format input "format") (input.member? "extra")
  | "show_exported" => return .showExported (← required Read.format input "format")
  | "clear_cache" => return .clearCache
  | "pin_main" => return .pinMain
  | "unpin_main" => return .unpinMain
  | "init_template" =>
    return .instantiateTemplate (← required
      (Read.oneOf [("NewLocation", .newLocation), ("InPlace", .inPlace)]) input "mode")
  | "start_preview" => return .startPreview (← required Read.launch input "args")
  | "kill_preview" => return .killPreview (← textOf input "task")
  | "scroll_preview" => do
    let task ← textOf input "task"
    match Preview.Scroll.decode (valueOf input "request") with
    | .ok scroll => return .scrollPreview task scroll
    | .error _ => complain "request"
  | "launch_preview" => return .launchPreview (← defaulted Read.previewKind input "kind" .webview)
  | "dispose_task" => return .disposeTask (← textOf input "task")
  | "on_enter" => do
    let uri ← required Read.uri input "uri"
    return .onEnter uri (← required Read.position input "position")
  | "code_lens" => return .codeLens (← textOf input "tag")
  | _ => complain "do"

/-- Operations whose plain success is not reported. -/
def isSilent (action : String) : Bool := action == "message" || action == "activate_path"

/-- What an operation yielded. -/
def Log.yield (action : String) : Session.Yield → Json
  | .done => if isSilent action then .null else .string "ok"
  | .pending => .string "pending"
  | .path exported => Log.ok (.ofText? exported)
  | .preview started => Log.ok started.encode
  | .task id => Log.ok (.string id)
  | .wasLive live => .bool live
  | .edits edits =>
    Log.ok (Json.orNull (edits.map fun edits => .array (edits.map TextEdit.encode)))

/-- How an operation ended. -/
def Log.outcome (action : String) : Except Session.Halt Session.Yield → Json
  | .ok value => Log.yield action value
  | .error (.failed error) => Log.clientError error
  | .error .overflow => Log.overflow

/-- Read the options of a session. -/
def readOptions (input : Json) : Described Session.Options := do
  let primary ← defaulted Read.text input "primary" Session.primaryLanguage
  let fixed ← defaulted Read.text input "fixed" "/opt/tinymist"
  let server ← match Json.nonNull? (input.member? "resolve") with
    | none => pure (ServerChoice.fixed fixed)
    | some candidates => do
      let explicit ← optional Read.text candidates "explicit"
      let bundled ← optional Read.text candidates "bundled"
      let searchPath ← optional Read.text candidates "search_path"
      pure (.probed ⟨explicit, bundled, searchPath⟩)
  let root ← defaulted Read.text input "root" "/work"
  let arguments ← defaulted Read.texts input "args" ["lsp"]
  return ⟨primary, server, arguments, root, ← defaulted Read.nat input "timeout_ms" 0⟩

namespace Play

/-- Read a play on a machine. -/
def ofJson (files : FileSystem) (processId input : Json) : Described Play := do
  let options ← readOptions (valueOf input "options")
  let stage ← Stage.empty.overwrite 0 (valueOf input "host")
  let script ← Script.ofJson input
  let direct ← defaulted Read.bool input "raw_events" false
  return ⟨.fresh options, direct, stage, script, files, processId⟩

/-- What surrounds the session. -/
def environment (play : Play) : Session.Environment where
  peer := play.script.peer
  editor := play.stage.editor
  files := play.files
  processId := play.processId
  draw := fun drawn => "<task-" ++ toString (drawn.length + 1) ++ ">"

/-- Perform an operation. -/
def perform (play : Play) (operation : Session.Operation) :
    Except Session.Halt Session.Yield × Play :=
  let (result, session) := (Session.perform play.environment operation).run play.session
  (result, { play with session := session })

/-- Number of subscribers to the editor's events. -/
def subscribers (play : Play) : Nat := play.session.source.subscriberCount

/-- Take one step: what it reports, and the play after it. -/
def step (play : Play) (input : Json) : Described (Json × Play) := do
  let session := play.session
  match ← textOf input "do" with
  | "emit" =>
    let event ← Read.event "event" (valueOf input "event")
    return (.null, { play with session := session.emit event })
  | "push" =>
    let event ← Read.arrival "event" (valueOf input "event")
    return (.null, { play with session := session.arrive event })
  | "close_transport" =>
    return (.null, { play with session := { session with arrivals := session.arrivals.close } })
  | "close_events" =>
    let source := if play.direct then session.source.close else session.source
    return (.null, { play with session := { session with source := source } })
  | "settings" =>
    return (.ofFields [("settings", session.settings.encode),
      ("resolved", session.resolved.toJson)], play)
  | "debug" => return (.string session.describe, play)
  | "set" =>
    let stage ← play.stage.overwrite (Stage.menus session.trace) (valueOf input "host")
    return (.null, { play with stage := stage })
  | "respond" =>
    let script ← play.script.respondAlso input
    return (.null, { play with script := script })
  | "faults" =>
    let script ← play.script.failInstead input
    return (.null, { play with script := script })
  | action =>
    let (result, next) := play.perform (← readOperation input action)
    return (Log.outcome action result, next)

end Play

end LanguageClient.Rehearsal
