import LanguageClient.DocumentSync
import LanguageClient.Session.State
import LanguageClient.Uri.FilePath

/-!
# Starting and stopping a session

A start resolves the settings, launches the server, introduces the client, subscribes to the
editor's events, announces the open documents and the main file. When any step but the last
fails, everything done so far is undone and the session is stopped for good.

A stop disposes the tasks and the subscription first, then asks the server to shut down and stops
the transport. Only a running session is stopped.
-/

namespace LanguageClient.Session

/-- What placeholders expand to. The theme comes from the editor; settings that the editor does
not give are those of the client's own section. -/
def bindings (editor : Editor) (trace : Trace) : Variables :=
  let given := editor.bindings trace
  { given with
    theme := editor.theme trace
    settings :=
      if given.settings.isNull then
        .ofFields [(Settings.sectionName,
          Json.orNull (editor.configuration trace Settings.sectionName))]
      else given.settings }

/-- Resolve the settings of the session. -/
def resolveSettings (environment : Environment) : Action Unit :=
  modify fun session =>
    let raw := Json.orNull (environment.editor.configuration session.trace Settings.sectionName)
    let resolved := Settings.resolve (bindings environment.editor session.trace) raw
    { session with resolved := resolved, settings := resolved.settings }

/-- The binary to launch. A server path in the settings counts when no other was named. -/
def serverBinary (environment : Environment) (session : Session) :
    Except Server.NotFound String :=
  match session.options.server with
  | .fixed path => .ok path
  | .probed candidates =>
    { candidates with explicit := candidates.explicit.or session.settings.serverPath }.resolve
      environment.files

/-- Show the indicator and announce the main file. A failed announcement is ignored. -/
def applyFocus (environment : Environment) (effect : FocusEffect) : Action Unit := do
  tell (.setFocusIndicator effect.indicator)
  ignoring (overConnection
    (Connection.execute environment.peer "tinymist.focusMain" [.ofText? effect.main]))

/-- Apply an effect, if there is one. -/
def applyFocus? (environment : Environment) : Option FocusEffect → Action Unit
  | some effect => applyFocus environment effect
  | none => return

/-- Listen to the transport and launch the server. From here on the session counts as running. -/
def launch (environment : Environment) (binary : String) : Action Unit := do
  overConnection (Connection.listen environment.peer)
  modify fun session => { session with listening := true }
  let session ← get
  overConnection (Connection.launch environment.peer
    (.inDirectory binary session.options.root session.options.arguments))
  modify fun session => { session with lifecycle := .running }

/-- Subscribe to the editor's events. -/
def subscribe : Action Unit :=
  modify fun session =>
    let (subscription, source) := session.source.subscribe
    { session with
      source := source
      subscriptions := session.subscriptions ++ [subscription]
      receiver := some subscription.id }

/-- Announce the open documents and the first main file. -/
def bringUpToDate (environment : Environment) : Action Unit := do
  let session ← get
  let _ ← overConnection (DocumentSync.replay environment.peer session.options.primary
    (environment.editor.documents session.trace))
  let session ← get
  let (focus, effect) := session.focus.initial session.options.primary
    (environment.editor.active session.trace) (environment.editor.visible session.trace)
    (environment.editor.documents session.trace)
  set { session with focus := focus }
  applyFocus environment effect

/-- The steps of a start. -/
def bringUp (environment : Environment) : Action Unit := do
  resolveSettings environment
  let session ← get
  match serverBinary environment session with
  | .error notFound => fail (.serverBinary notFound)
  | .ok binary =>
    launch environment binary
    let _ ← overConnection (Connection.introduce environment.peer environment.processId
      (Uri.ofFilePath? session.options.root.toList) (some session.resolved.toJson))
    subscribe
    bringUpToDate environment

/-- Undo a start that failed. A launched server is stopped. -/
def abandon (environment : Environment) : Action Unit := do
  let session ← get
  set { session with lifecycle := .stopped }
  disposeTasks
  releaseSource
  modify fun session => { session with listening := false }
  if session.isRunning then
    ignoring (overConnection (Connection.stop environment.peer))

/-- Start the session. A failure is shown to the user. -/
def start (environment : Environment) : Action Unit := do
  let session ← get
  if session.lifecycle ≠ .idle then fail .alreadyStarted
  match ← attempt (bringUp environment) with
  | .ok () => return
  | .error error =>
    abandon environment
    tell (.showError ("Failed to start tinymist: " ++ error.message))
    fail error

/-- Ask the server to shut down, and tell it to exit if it agreed. -/
def dismiss (environment : Environment) : Action Unit := do
  match ← attempt (overConnection (Connection.shutdown environment.peer)) with
  | .ok () => ignoring (overConnection (Connection.exit environment.peer))
  | .error _ => return

/-- Stop the session. Nothing happens unless it is running. -/
def stop (environment : Environment) : Action Unit := do
  let session ← get
  if session.isRunning then
    set { session with lifecycle := .stopped }
    disposeTasks
    releaseSource
    dismiss environment
    overConnection (Connection.stop environment.peer)
    modify fun session => { session with listening := false }

end LanguageClient.Session
