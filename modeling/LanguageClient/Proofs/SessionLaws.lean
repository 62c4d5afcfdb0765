import LanguageClient.Proofs.SessionCalls
import LanguageClient.Session.Operation

/-!
# Laws of a session

A law relates the session before to the session after, and holds across any number of steps. What
a session does is made of few things: routine calls, a move of the focus together with its
announcement, the disposal of tasks, taking an event from its queue, other traffic with the server,
and arrangements that concern none of them. A law that allows for these holds of handling events,
of starting and stopping, and of every operation that launches no preview.
-/

namespace LanguageClient.Session

/-- How an event moves the focus of a session, given what the editor reports, and the effect. -/
def focusMove (environment : Environment) (primary : String) (session : Session) :
    EditorEvent → FocusState × Option FocusEffect
  | .activeChanged active =>
    session.focus.activeChanged primary active (environment.editor.documents session.trace)
  | .opened document =>
    session.focus.documentOpened primary document (environment.editor.active session.trace)
      (environment.editor.documents session.trace)
  | .closed document => session.focus.documentClosed document
  | .changed _ _ => (session.focus, none)

/-- Without an effect the focus stays. -/
theorem focusMove_still (environment : Environment) (primary : String) (session : Session)
    (event : EditorEvent) (still : (focusMove environment primary session event).2 = none) :
    (focusMove environment primary session event).1 = session.focus := by
  cases event with
  | activeChanged active =>
    simp only [focusMove, FocusState.activeChanged] at still ⊢
    split at still
    · rw [if_pos ‹_›]
    · cases still
  | opened document =>
    simp only [focusMove, FocusState.documentOpened] at still ⊢
    split at still
    · cases still
    · rw [if_neg ‹_›]
  | closed document =>
    simp only [focusMove, FocusState.documentClosed] at still ⊢
    split at still
    · cases still
    · rw [if_neg ‹_›]
  | changed document changes => rfl

/-- Move the focus and announce the move. -/
def moveFocus (environment : Environment) (session : Session)
    (move : FocusState × Option FocusEffect) : Action Unit := do
  set { session with focus := move.1 }
  applyFocus? environment move.2

/-- An event is announced first, and then it moves the focus. -/
theorem handleEvent_eq (environment : Environment) (event : EditorEvent) :
    handleEvent environment event = (do
      let session ← get
      let _ ← overConnection
        (DocumentSync.forward environment.peer session.options.primary event)
      let told ← get
      moveFocus environment told
        (focusMove environment session.options.primary told event)) := by
  cases event <;> rfl

/-- The first evaluation of the focus: the last step of a start. -/
def focusFirst (environment : Environment) : Action Unit := do
  let session ← get
  let (focus, effect) := session.focus.initial session.options.primary
    (environment.editor.active session.trace) (environment.editor.visible session.trace)
    (environment.editor.documents session.trace)
  set { session with focus := focus }
  applyFocus environment effect

/-- The steps of a start up to the evaluation of the focus. -/
def prepare (environment : Environment) : Action Unit := do
  resolveSettings environment
  let session ← get
  match serverBinary environment session with
  | .error notFound => fail (.serverBinary notFound)
  | .ok binary =>
    launch environment binary
    let _ ← overConnection (Connection.introduce environment.peer environment.processId
      (Uri.ofFilePath? session.options.root.toList) (some session.resolved.toJson))
    subscribe
    let session ← get
    let _ ← overConnection (DocumentSync.replay environment.peer session.options.primary
      (environment.editor.documents session.trace))
    return

/-- The steps of a start end with the first evaluation of the focus. -/
theorem bringUp_eq (environment : Environment) :
    bringUp environment = (do
      prepare environment
      focusFirst environment) := by
  have upToDate : bringUpToDate environment = (do
      let session ← get
      let _ ← overConnection (DocumentSync.replay environment.peer session.options.primary
        (environment.editor.documents session.trace))
      focusFirst environment) := rfl
  simp only [bringUp, prepare, upToDate, bind_assoc]
  congr 1
  funext _
  congr 1
  funext session
  cases serverBinary environment session with
  | error notFound => rfl
  | ok binary => simp only [bind_assoc, pure_bind]

/-- The steps of a start, undone if one of them fails. -/
def bringUpOrAbandon (environment : Environment) : Action Unit := do
  match ← attempt (bringUp environment) with
  | .ok () => return
  | .error error =>
    abandon environment
    tell (.showError ("Failed to start tinymist: " ++ error.message))
    fail error

/-- Only an idle session is started. -/
theorem run_start (environment : Environment) (session : Session) :
    (start environment).run session =
      if session.lifecycle = .idle then (bringUpOrAbandon environment).run session
      else (.error (.failed .alreadyStarted), session) := by
  have opened : start environment = (do
      let session ← get
      if session.lifecycle ≠ .idle then fail .alreadyStarted
      bringUpOrAbandon environment) := rfl
  rw [opened, run_get_bind]
  by_cases idle : session.lifecycle = .idle
  · rw [if_neg (not_not_intro idle), if_pos idle]
  · rw [if_pos idle, if_neg idle]
    rfl

/-- A law that holds of all that is done to handle an event, a message or a command: routine calls,
a move of the focus with its announcement, and the disposal of a task. -/
structure Handling (relation : Session → Session → Prop) : Prop where
  routine : ∀ before after, Routine before after → relation before after
  focus : ∀ environment effect focus session,
    relation session ((applyFocus environment effect).run { session with focus := focus }).2
  dispose : ∀ id, Leads relation (disposeTask id)

/-- A law that also holds of taking an event from its queue. -/
structure Ordinary (relation : Session → Session → Prop) : Prop extends Handling relation where
  fetches : ∀ before after, Fetches before after → relation before after

/-- Whether an operation neither begins nor ends the conversation and can launch no preview. -/
def Operation.isOrdinary : Operation → Bool
  | .start | .stop | .run | .launchPreview _ | .codeLens _ => false
  | _ => true

variable {α : Type} (environment : Environment)

namespace Handling

variable {relation : Session → Session → Prop}

/-- Routine calls obey the law. -/
theorem calls (handling : Handling relation) {action : Action α} (routine : Leads Routine action) :
    Leads relation action :=
  routine.mono handling.routine

/-- A weaker law holds of the same. -/
theorem mono (handling : Handling relation) {weaker : Session → Session → Prop}
    (implied : ∀ before after, relation before after → weaker before after) : Handling weaker where
  routine := fun before after made => implied before after (handling.routine before after made)
  focus := fun environment effect focus session =>
    implied _ _ (handling.focus environment effect focus session)
  dispose := fun id => (handling.dispose id).mono implied

/-- Focusing a path moves the focus. -/
theorem activatePath (handling : Handling relation) (document : Option Document)
    (path : Option String) : Leads relation (activatePath environment document path) := by
  intro session
  let opened := environment.editor.documents session.trace
  exact handling.focus environment (session.focus.activatePath document path opened).2
    (session.focus.activatePath document path opened).1 session

/-- The first evaluation moves the focus. -/
theorem focusFirst (handling : Handling relation) : Leads relation (focusFirst environment) := by
  intro session
  let first := session.focus.initial session.options.primary
    (environment.editor.active session.trace) (environment.editor.visible session.trace)
    (environment.editor.documents session.trace)
  exact handling.focus environment first.2 first.1 session

variable [IsPreorder Session relation]

/-- Of the notifications, one disposes a task and the others make a call at most. -/
theorem handleDecoded (handling : Handling relation) (notification : ServerNotification) :
    Leads relation (handleDecoded environment notification) := by
  cases notification with
  | compileStatus status =>
    simp only [Session.handleDecoded]
    split
    · exact handling.calls (tell_calls rfl)
    · exact .throw _
  | scrollSource scroll =>
    simp only [Session.handleDecoded]
    split
    · exact handling.calls (ignoring_leads (ask_calls environment.editor rfl))
    · exact .pure _
  | documentOutline outline => exact handling.calls (tell_calls rfl)
  | previewDispose dispose => exact .bind (handling.dispose dispose.taskId) fun _ => .pure _
  | other notice => exact .pure _

/-- Handling a message makes routine calls or disposes a task. -/
theorem handleMessage (handling : Handling relation) (message : Rpc.Message) :
    Leads relation (handleMessage environment message) := by
  cases message with
  | request call => exact handling.calls (handleRequest_routine environment call)
  | response answer => exact .pure _
  | notification notice =>
    simp only [Session.handleMessage, handleNotification]
    split
    · exact handling.handleDecoded environment _
    · exact .pure _

/-- The focus may move, and does so with an announcement. -/
theorem move (handling : Handling relation) (session : Session) {focus : FocusState}
    {effect : Option FocusEffect} (still : effect = none → focus = session.focus) :
    relation session ((applyFocus? environment effect).run { session with focus := focus }).2 := by
  cases effect with
  | some effect => exact handling.focus environment effect focus session
  | none =>
    rw [still rfl]
    exact refl_of relation session

/-- Handling an event of the editor makes routine calls, and may move the focus then. -/
theorem handleEvent (handling : Handling relation) (event : EditorEvent) :
    Leads relation (handleEvent environment event) := by
  rw [handleEvent_eq]
  refine .bind .get fun session => ?_
  refine .bind (handling.calls (forward_routine environment _ event)) fun _ => ?_
  refine .get_bind fun told => ?_
  exact handling.move environment told
    (focusMove_still environment session.options.primary told event)

/-- Killing a preview disposes its task if the server agrees. -/
theorem killPreview (handling : Handling relation) (task : String) :
    Leads relation (killPreview environment task) :=
  .bind (handling.calls (execute_routine environment _ _)) fun _ =>
    .bind (handling.dispose task) fun _ => .pure _

/-- Every operation that neither begins nor ends the conversation and launches no preview. -/
theorem perform (handling : Handling relation) {operation : Operation}
    (plain : operation.isOrdinary = true) : Leads relation (perform environment operation) := by
  have routinely {β : Type} {action : Action β} (routine : Leads Routine action)
      (reading : β → Yield) : Leads relation (action >>= fun value => pure (reading value)) :=
    (handling.calls routine).bind_pure reading
  cases operation with
  | handleEvent event => exact (handling.handleEvent environment event).bind_pure _
  | handleMessage message => exact (handling.handleMessage environment message).bind_pure _
  | activatePath document path =>
    exact (handling.activatePath environment document path).bind_pure _
  | exportActive format extra => exact routinely (exportActive_routine environment format extra) _
  | showExported format => exact routinely (showExported_routine environment format) _
  | clearCache => exact routinely (clearCache_routine environment) _
  | pinMain => exact routinely (pinMain_routine environment) _
  | unpinMain => exact routinely (unpinMain_routine environment) _
  | instantiateTemplate mode => exact routinely (instantiateTemplate_routine environment mode) _
  | startPreview launch => exact routinely (startPreview_routine environment launch) _
  | killPreview task => exact (handling.killPreview environment task).bind_pure _
  | scrollPreview task scroll => exact routinely (scrollPreview_routine environment task scroll) _
  | disposeTask task => exact (handling.dispose task).bind_pure _
  | onEnter uri position => exact routinely (onEnter_routine environment uri position) _
  | _ => cases plain

/-- A turn of the loop takes an event and handles it. -/
theorem turn (handling : Handling relation) (taking : Leads relation next) :
    Leads relation (turn environment) := by
  refine .bind taking fun next => ?_
  cases next with
  | editor event =>
    exact .bind (ignoring_leads (handling.handleEvent environment event)) fun _ => .pure _
  | server event =>
    cases event with
    | message message => exact .bind (handling.handleMessage environment message) fun _ => .pure _
    | status status =>
      cases status with
      | crashed => exact .bind (handling.calls (tell_calls rfl)) fun _ => .pure _
      | _ => exact .pure _
    | disconnected => exact .pure _
  | _ => exact .pure _

end Handling

/-- A turn of the loop is as ordinary as taking an event is. -/
theorem Ordinary.turn {relation : Session → Session → Prop} [IsPreorder Session relation]
    (ordinary : Ordinary relation) : Leads relation (turn environment) :=
  ordinary.toHandling.turn environment (next_fetches.mono ordinary.fetches)

/-- The session stays as far as it got. -/
def Stays (before after : Session) : Prop := after.lifecycle = before.lifecycle

instance : IsPreorder Session Stays where
  refl := fun _ => rfl
  trans := fun _ _ _ first second => second.trans first

/-- Handling events brings the session no further. -/
theorem stays_ordinary : Ordinary Stays where
  routine := fun _ _ made => by rw [Stays, made.1]
  focus := fun environment effect focus session => by
    rw [Stays, (applyFocus_routine environment effect { session with focus := focus }).1]
  dispose := fun id session => by rw [Stays, run_disposeTask]
  fetches := fun _ _ fetched => by rw [Stays, fetched]

/-- Calls, focus, tasks and identifiers stay; what else a session keeps may change. -/
structure Arranges (before after : Session) : Prop where
  connection : after.connection = before.connection
  focus : after.focus = before.focus
  tasks : after.tasks = before.tasks
  drawn : after.drawn = before.drawn

/-- A law that holds of arrangements, and of traffic that does not concern previews. -/
structure Mechanical (relation : Session → Session → Prop) : Prop where
  arranges : ∀ before after, Arranges before after → relation before after
  traffic : ∀ before after, Calls (fun call => call.isPreview = false) before after →
    relation before after

namespace Mechanical

variable {relation : Session → Session → Prop}

/-- A change that concerns neither calls, focus, tasks nor identifiers. -/
theorem changes (mechanical : Mechanical relation) {change : Session → Session}
    (arranged : ∀ session, Arranges session (change session)) :
    Leads relation (modify change : Action PUnit) :=
  .modify fun session => mechanical.arranges _ _ (arranged session)

/-- What is done over the connection, without previews. -/
theorem overConnection (mechanical : Mechanical relation) {action : Connection.Action α}
    (calls : Leads (Connection.Calls fun call => call.isPreview = false) action) :
    Leads relation (overConnection action) :=
  (overConnection_calls calls).mono mechanical.traffic

/-- Introducing the client. -/
theorem introduce (mechanical : Mechanical relation) (processId : Json) (root : Option Uri)
    (options : Option Json) : Leads relation
      (Session.overConnection (Connection.introduce environment.peer processId root options)) := by
  refine mechanical.overConnection ?_
  refine .bind (Connection.request_calls environment.peer fun _ _ _ => rfl) fun answer => ?_
  refine .bind (.modify fun connection => refl_of (Trace.Grows _) connection.trace) fun _ => ?_
  exact .bind (Connection.notify_calls environment.peer fun _ _ => rfl) fun _ => .pure _

/-- Announcing the open documents. -/
theorem replay (mechanical : Mechanical relation) (primary : String) (opened : List Document) :
    Leads relation
      (Session.overConnection (DocumentSync.replay environment.peer primary opened)) :=
  mechanical.overConnection (.bind (Connection.announceAll_calls environment.peer
    (fun _ _ => rfl) _) fun _ => .pure _)

variable [IsPreorder Session relation]

/-- Launching the server. -/
theorem launch (mechanical : Mechanical relation) (binary : String) :
    Leads relation (launch environment binary) := by
  refine .bind (mechanical.overConnection (Connection.listen_calls environment.peer)) fun _ => ?_
  refine .bind (mechanical.changes fun _ => ⟨rfl, rfl, rfl, rfl⟩) fun _ => .bind .get fun _ => ?_
  exact .bind (mechanical.overConnection (Connection.launch_calls environment.peer rfl)) fun _ =>
    mechanical.changes fun _ => ⟨rfl, rfl, rfl, rfl⟩

/-- The steps of a start up to the evaluation of the focus. -/
theorem prepare (mechanical : Mechanical relation) : Leads relation (prepare environment) := by
  refine .bind (mechanical.changes fun _ => ⟨rfl, rfl, rfl, rfl⟩) fun _ => ?_
  refine .bind .get fun session => ?_
  split
  · exact fail_leads _
  · refine .bind (mechanical.launch environment _) fun _ => ?_
    refine .bind (mechanical.introduce environment _ _ _) fun _ => ?_
    refine .bind (mechanical.changes fun _ => ⟨rfl, rfl, rfl, rfl⟩) fun _ => .bind .get fun _ => ?_
    exact .bind (mechanical.replay environment _ _) fun _ => .pure _

/-- What follows the disposal of the tasks when a start is undone. -/
theorem abandonRest (mechanical : Mechanical relation) (launched : Bool) :
    Leads relation (do
      releaseSource
      modify fun session => { session with listening := false }
      if launched then ignoring (Session.overConnection (Connection.stop environment.peer)) :
        Action Unit) := by
  refine .bind (mechanical.changes fun _ => ⟨rfl, rfl, rfl, rfl⟩) fun _ => ?_
  refine .bind (mechanical.changes fun _ => ⟨rfl, rfl, rfl, rfl⟩) fun _ => ?_
  split
  · exact ignoring_leads
      (mechanical.overConnection (Connection.stop_calls environment.peer rfl))
  · exact .pure _

/-- What follows the disposal of the tasks when the session is stopped. -/
theorem stopRest (mechanical : Mechanical relation) :
    Leads relation (do
      releaseSource
      dismiss environment
      Session.overConnection (Connection.stop environment.peer)
      modify fun session => { session with listening := false } : Action Unit) := by
  refine .bind (mechanical.changes fun _ => ⟨rfl, rfl, rfl, rfl⟩) fun _ => .bind ?_ fun _ => ?_
  · refine .bind (attempt_leads (mechanical.overConnection
      (Connection.request_calls environment.peer fun _ _ _ => rfl))) fun result => ?_
    split
    · exact ignoring_leads (mechanical.overConnection
        (Connection.notify_calls environment.peer fun _ _ => rfl))
    · exact .pure _
  · exact .bind (mechanical.overConnection (Connection.stop_calls environment.peer rfl)) fun _ =>
      mechanical.changes fun _ => ⟨rfl, rfl, rfl, rfl⟩

end Mechanical

/-- A law that holds of all that a session does apart from launching a preview. -/
structure Lawful (relation : Session → Session → Prop) : Prop
    extends Ordinary relation, Mechanical relation where
  disposeAll : Leads relation disposeTasks

namespace Lawful

variable {relation : Session → Session → Prop} [IsPreorder Session relation]

/-- The steps of a start. -/
theorem bringUp (lawful : Lawful relation) : Leads relation (bringUp environment) := by
  rw [bringUp_eq]
  exact .bind (lawful.prepare environment) fun _ => lawful.focusFirst environment

/-- Undoing a start. -/
theorem abandon (lawful : Lawful relation) : Leads relation (abandon environment) := by
  refine .get_bind fun session => ?_
  refine Leads.set_bind (lawful.arranges _ _ ⟨rfl, rfl, rfl, rfl⟩) ?_
  exact .bind lawful.disposeAll fun _ => lawful.abandonRest environment _

/-- Starting, whether it fails or not. -/
theorem start (lawful : Lawful relation) : Leads relation (start environment) := by
  have rest : Leads relation (bringUpOrAbandon environment) := by
    refine .bind (attempt_leads (lawful.bringUp environment)) fun result => ?_
    cases result with
    | ok done => exact .pure _
    | error error =>
      refine .bind (lawful.abandon environment) fun _ => ?_
      exact .bind (lawful.calls (tell_calls rfl)) fun _ => fail_leads _
  intro session
  rw [run_start]
  split
  · exact rest session
  · exact refl_of relation session

/-- Stopping. -/
theorem stop (lawful : Lawful relation) : Leads relation (stop environment) := by
  refine .get_bind fun session => ?_
  split
  · refine Leads.set_bind (lawful.arranges _ _ ⟨rfl, rfl, rfl, rfl⟩) ?_
    exact .bind lawful.disposeAll fun _ => lawful.stopRest environment
  · exact refl_of relation session

/-- Any number of turns of the loop. -/
theorem turns (lawful : Lawful relation) (count : Nat) :
    Leads relation (turns environment count) := by
  induction count with
  | zero => exact .pure _
  | succ count inductionHypothesis =>
    refine .bind (lawful.turn environment) fun pace => ?_
    cases pace with
    | proceed => exact inductionHypothesis
    | wait => exact .pure _
    | finish => exact .bind (lawful.stop environment) fun _ => .pure _

/-- Every operation that launches no preview. -/
theorem perform (lawful : Lawful relation) (operation : Operation)
    (unlaunched : ∀ kind, operation ≠ .launchPreview kind)
    (unlensed : ∀ tag, operation ≠ .codeLens tag) :
    Leads relation (perform environment operation) := by
  cases operation with
  | start => exact (lawful.start environment).bind_pure _
  | stop => exact (lawful.stop environment).bind_pure _
  | run =>
    refine .bind (.bind .get fun session => lawful.turns environment _) fun loopEnd => ?_
    cases loopEnd with
    | stopped => exact .pure _
    | pending => exact .pure _
  | launchPreview kind => exact absurd rfl (unlaunched kind)
  | codeLens tag => exact absurd rfl (unlensed tag)
  | _ => exact lawful.toOrdinary.perform environment rfl

end Lawful

section CodeLens

variable {relation : Session → Session → Prop}
  (routine : ∀ {before after}, Routine before after → relation before after)
  (launched : ∀ kind, Leads relation (launchPreview environment kind))

include routine launched

/-- A code lens makes routine calls or launches a preview. -/
theorem runCodeLens_leads (lens : CodeLens) : Leads relation (runCodeLens environment lens) := by
  have routinely {β : Type} {action : Action β} (calls : Leads Routine action) :
      Leads relation action :=
    calls.mono fun _ _ => routine
  cases lens with
  | preview => exact (launched .webview).bind_pure _
  | previewInBrowser => exact (launched .browser).bind_pure _
  | exportPdf => exact routinely ((showExported_routine environment .pdf).bind_pure _)
  | exportAs =>
    refine routinely (.bind (choose_routine environment _ _ _) fun chosen => ?_)
    cases chosen with
    | none => exact .pure _
    | some format => exact (showExported_routine environment format).bind_pure _
  | more => exact routinely (.pure _)

/-- The code lens of a tag makes routine calls, and may launch a preview after them. -/
theorem runCodeLensTag_leads
    (preceded : ∀ {before middle after},
      Routine before middle → relation middle after → relation before after) (tag : String) :
    Leads relation (runCodeLensTag environment tag) := by
  unfold runCodeLensTag
  split
  · exact fun session => routine (refl_of Routine session)
  · refine .bind_comp (choose_routine environment _ _ _) (fun chosen => ?_) preceded routine
    cases chosen with
    | none => exact fun session => routine (refl_of Routine session)
    | some action => exact runCodeLens_leads environment routine launched action
  · exact runCodeLens_leads environment routine launched _

end CodeLens

namespace Handling

variable {relation : Session → Session → Prop} [IsPreorder Session relation]

/-- A launch of a preview makes routine calls and opens the preview in the editor; between them an
identifier is drawn and registered. -/
theorem launchPreview (handling : Handling relation)
    (drawing : ∀ session drawn, relation session { session with drawn := drawn })
    (registering : ∀ task, Leads relation (registerPreview task))
    (opening : ∀ task started, Leads relation (ask environment.editor (.openPreview task started)))
    (kind : Preview.Kind) : Leads relation (launchPreview environment kind) := by
  refine .bind (handling.calls (previewPath_routine environment)) fun path => ?_
  refine .bind (.get_bind fun session => Leads.set_bind (drawing session _) (.pure _))
    fun task => .bind .get fun session => ?_
  refine .bind (handling.calls (startPreview_routine environment _)) fun started => ?_
  exact .bind (registering task) fun _ => .bind (opening task started) fun _ => .pure _

/-- Every operation that neither starts nor stops the session nor runs the loop, provided that a
launch of a preview obeys the law. -/
theorem performs (handling : Handling relation)
    (launched : ∀ kind, Leads relation (Session.launchPreview environment kind))
    {operation : Operation} (unstarted : operation ≠ .start) (unstopped : operation ≠ .stop)
    (still : operation ≠ .run) : Leads relation (Session.perform environment operation) := by
  have lensed (tag : String) : Leads relation (runCodeLensTag environment tag) :=
    runCodeLensTag_leads environment (handling.routine _ _) launched
      (fun calls => trans_of relation (handling.routine _ _ calls)) tag
  cases operation with
  | start => exact absurd rfl unstarted
  | stop => exact absurd rfl unstopped
  | run => exact absurd rfl still
  | launchPreview kind => exact (launched kind).bind_pure _
  | codeLens tag => exact (lensed tag).bind_pure _
  | _ => exact handling.perform environment rfl

end Handling

end LanguageClient.Session
