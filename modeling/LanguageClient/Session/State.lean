import LanguageClient.ClientError
import LanguageClient.Connection
import LanguageClient.Editor.Basic
import LanguageClient.Editor.EventHub
import LanguageClient.Focus
import LanguageClient.Settings.Resolved
import LanguageClient.Transport.Event

/-!
# The state of a session

A session is one connection to one server together with the focus, the live tasks and the
subscription to the editor's events. It is idle until it is started, and once it is stopped it
stays stopped.

Operations are actions over the state. An action may fail; what it did before it failed stands.
The surroundings of an action, the server, the editor and the file system, are given to it and
may differ from one operation to the next.
-/

namespace LanguageClient

/-- Which binary is launched as server. -/
inductive ServerChoice where
  /-- This one as it is. -/
  | fixed (path : String)
  /-- The first candidate that passes its probe. -/
  | probed (candidates : Server.Candidates)
deriving DecidableEq, Repr

namespace Session

/-- Fixed parameters of a session. A request timeout of zero leaves it to the transport. -/
structure Options where
  primary : String
  server : ServerChoice
  arguments : List String
  root : String
  timeout : Nat
deriving DecidableEq, Repr

/-- The language of the documents that the server synchronizes itself. -/
def primaryLanguage : String := "typst"

/-- The usual options for a workspace. -/
def Options.inWorkspace (server : ServerChoice) (root : String) : Options :=
  ⟨primaryLanguage, server, ["lsp"], root, 0⟩

/-- How far a session got. -/
inductive Lifecycle where
  | idle
  | running
  | stopped
deriving DecidableEq, Repr

/-- The name of a lifecycle as shown to a developer. -/
def Lifecycle.name : Lifecycle → String
  | .idle => "Idle"
  | .running => "Running"
  | .stopped => "Stopped"

/-- Why an action did not complete. -/
inductive Halt where
  | failed (error : ClientError)
  /-- A word total does not fit its word. -/
  | overflow
deriving DecidableEq, Repr

/-- What surrounds a session during an operation. Identifiers of new tasks are drawn by a function
of those drawn before. -/
structure Environment where
  peer : Peer
  editor : Editor
  files : FileSystem
  processId : Json
  draw : List String → String

end Session

/-- A session. The receiver is the subscription whose events it reads; it listens while it holds
the events of the transport. A task's teardown is a call to the editor. -/
structure Session where
  options : Session.Options
  connection : Connection
  lifecycle : Session.Lifecycle
  focus : FocusState
  tasks : TaskRegistry EditorCall
  source : EventHub
  subscriptions : List Subscription
  receiver : Option Nat
  arrivals : Arrivals
  listening : Bool
  resolved : Settings.Resolved
  settings : Settings
  drawn : List String
deriving DecidableEq, Repr

namespace Session

/-- A session that was not started. -/
def fresh (options : Options) : Session where
  options := options
  connection := .fresh options.timeout
  lifecycle := .idle
  focus := .unfocused
  tasks := .empty
  source := .empty
  subscriptions := []
  receiver := none
  arrivals := .empty
  listening := false
  resolved := .empty
  settings := .default
  drawn := []

/-- All calls of the session so far. -/
def trace (session : Session) : Trace := session.connection.trace

/-- Whether the session was started and not stopped since. -/
def isRunning (session : Session) : Bool := session.lifecycle == .running

/-- The editor reports an event. -/
def emit (session : Session) (event : EditorEvent) : Session :=
  { session with source := session.source.emit event }

/-- The transport reports an event. -/
def arrive (session : Session) (event : TransportEvent) : Session :=
  { session with arrivals := session.arrivals.push event }

/-- A session as shown to a developer while no document is tracked. -/
def describe (session : Session) : String :=
  let path := match session.focus.path with
    | some path => "Some(" ++ Text.quoted path ++ ")"
    | none => "None"
  "ClientSession \x7b lifecycle: " ++ session.lifecycle.name ++
    ", focus: FocusState \x7b path: " ++ path ++ ", document: None \x7d, tasks: " ++
    session.tasks.describe ++ ", .. \x7d"

/-- Something done in a session. -/
abbrev Action (α : Type) := ExceptT Halt (StateM Session) α

/-- Fail with a cause. -/
def fail {α : Type} (error : ClientError) : Action α := throw (.failed error)

/-- Do something and keep its failure as a value. Only an overflow still ends the action. -/
def attempt {α : Type} (action : Action α) : Action (Except ClientError α) :=
  ExceptT.mk do
    match ← action.run with
    | .ok value => pure (.ok (.ok value))
    | .error (.failed error) => pure (.ok (.error error))
    | .error .overflow => pure (.error .overflow)

/-- Do something and ignore its failure. -/
def ignoring {α : Type} (action : Action α) : Action Unit := do
  let _ ← attempt action
  return

/-- Do something over the connection. -/
def overConnection {α : Type} (action : Connection.Action α) : Action α := do
  let session ← get
  let (result, connection) := action.run session.connection
  set { session with connection := connection }
  match result with
  | .ok value => return value
  | .error cause => fail (.transport cause)

/-- Call the editor without waiting for an outcome. -/
def tell (call : EditorCall) : Action Unit :=
  modify fun session => { session with connection := session.connection.record (.editor call) }

/-- Call the editor; the action fails when the call does. -/
def ask (editor : Editor) (call : EditorCall) : Action Unit := do
  tell call
  let session ← get
  match editor.outcome session.trace with
  | .ok () => return
  | .error reason => fail (.editor reason)

/-- Put a question to the user. The action is cancelled when the user dismisses it. -/
def prompt {α : Type} (call : EditorCall) (answer : Trace → Option α) : Action α := do
  tell call
  let session ← get
  match answer session.trace with
  | some value => return value
  | none => fail .cancelled

/-- Make calls to the editor in order. -/
def tellAll : List EditorCall → Action Unit
  | [] => return
  | call :: calls => do
    tell call
    tellAll calls

/-- Dispose a task; tells whether it was live. -/
def disposeTask (id : String) : Action Bool := do
  let session ← get
  let (teardown, tasks) := session.tasks.dispose id
  set { session with tasks := tasks }
  tellAll teardown.toList
  return teardown.isSome

/-- Dispose all tasks. -/
def disposeTasks : Action Unit := do
  let session ← get
  let (teardowns, tasks) := session.tasks.disposeAll
  set { session with tasks := tasks }
  tellAll teardowns

/-- Dispose the subscriptions and drop the receiver. -/
def releaseSource : Action Unit :=
  modify fun session =>
    let source := Subscription.disposeAll session.subscriptions session.source
    { session with
      source := match session.receiver with
        | some id => source.dropReceiver id
        | none => source
      subscriptions := []
      receiver := none }

end Session

end LanguageClient
