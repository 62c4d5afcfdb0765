import LanguageClient.Session.Inbound

/-!
# The event loop

Events are handled one at a time. As long as events of the editor wait they come first; then those
of the transport are taken in order. The loop ends when the editor's events end or the server
disconnects, and the session is stopped then. When nothing waits and nothing ended, the loop
waits; what it has not handled stays queued.
-/

namespace LanguageClient.Session

/-- Handle one event of the editor: tell the server about it, then move the focus. When telling
fails, the focus stays. -/
def handleEvent (environment : Environment) (event : EditorEvent) : Action Unit := do
  let session ← get
  let primary := session.options.primary
  let _ ← overConnection (DocumentSync.forward environment.peer primary event)
  let session ← get
  let opened := environment.editor.documents session.trace
  let (focus, effect) := match event with
    | .activeChanged active => session.focus.activeChanged primary active opened
    | .opened document =>
      session.focus.documentOpened primary document (environment.editor.active session.trace) opened
    | .closed document => session.focus.documentClosed document
    | .changed _ _ => (session.focus, none)
  set { session with focus := focus }
  applyFocus? environment effect

/-- Focus a path that the caller chose. -/
def activatePath (environment : Environment) (document : Option Document)
    (path : Option String) : Action Unit := do
  let session ← get
  let (focus, effect) :=
    session.focus.activatePath document path (environment.editor.documents session.trace)
  set { session with focus := focus }
  applyFocus environment effect

/-- What the loop finds next. -/
inductive Next where
  | editor (event : EditorEvent)
  | editorEnded
  | server (event : TransportEvent)
  | serverEnded
  | nothing
deriving DecidableEq, Repr

/-- Take the next event of the transport. -/
def nextArrival : Action Next := do
  let session ← get
  match session.arrivals.queue with
  | event :: rest =>
    set { session with arrivals := { session.arrivals with queue := rest } }
    return .server event
  | [] => return if session.arrivals.ended then .serverEnded else .nothing

/-- Take the next event. It takes both receivers to go on. -/
def next : Action Next := do
  let session ← get
  match session.receiver with
  | none => fail .notRunning
  | some id =>
    if !session.listening then fail .notRunning
    match session.source.receive id with
    | (.event event, source) =>
      set { session with source := source }
      return .editor event
    | (.empty, _) => nextArrival
    | (.closed, _) | (.noReceiver, _) => return .editorEnded

/-- How the loop goes on. -/
inductive Pace where
  | proceed
  | finish
  | wait
deriving DecidableEq, Repr

/-- Handle an event of the transport. -/
def handleArrival (environment : Environment) : TransportEvent → Action Pace
  | .message message => do
    handleMessage environment message
    return .proceed
  | .status .crashed => do
    tell (.showError "The tinymist language server crashed.")
    return .proceed
  | .status _ => return .proceed
  | .disconnected => return .finish

/-- One turn of the loop. -/
def turn (environment : Environment) : Action Pace := do
  match ← next with
  | .editor event =>
    ignoring (handleEvent environment event)
    return .proceed
  | .server event => handleArrival environment event
  | .editorEnded | .serverEnded => return .finish
  | .nothing => return .wait

/-- How the loop ended: the session was stopped, or nothing was left to do. -/
inductive LoopEnd where
  | stopped
  | pending
deriving DecidableEq, Repr

/-- Take at most a number of turns. -/
def turns (environment : Environment) : Nat → Action LoopEnd
  | 0 => return .pending
  | count + 1 => do
    match ← turn environment with
    | .proceed => turns environment count
    | .wait => return .pending
    | .finish =>
      stop environment
      return .stopped

/-- Number of events that wait. -/
def waiting (session : Session) : Nat :=
  (session.receiver.elim 0 session.source.waiting) + session.arrivals.queue.length

/-- Run the loop over what is queued. Every turn that goes on takes an event, so one turn more
than there are events reaches the end. -/
def run (environment : Environment) : Action LoopEnd := do
  let session ← get
  turns environment (session.waiting + 1)

end LanguageClient.Session
