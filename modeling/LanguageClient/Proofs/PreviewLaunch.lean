import LanguageClient.Proofs.PreviewTeardown

/-!
# What a launch that fails leaves behind

A launch of a preview can fail because there is nothing to show, because the server refuses it or
answers with something unreadable, because its identifier is live, and because the editor refuses
to open the preview. The task is registered when the server has answered and before the editor is
asked. So a launch that fails leaves the live tasks as they were, in their order, unless it is the
editor who refuses. In that case the new task stays behind as the last of the live ones, although
the caller never learns its identifier.
-/

namespace LanguageClient.Session

variable (environment : Environment)

/-- What becomes of a registration. -/
theorem run_registerPreview (task : String) (session : Session) :
    (registerPreview task).run session =
      match session.tasks.register task (.closePreview task) with
      | .ok tasks => (.ok (), { session with tasks := tasks })
      | .error duplicate => (.error (.failed (.duplicateTask duplicate)), session) := by
  rw [registerPreview, run_get_bind]
  cases session.tasks.register task (.closePreview task) with
  | ok tasks => rfl
  | error duplicate => rfl

/-- What a preview shows: the focused path, or else the path of the active document. -/
def previewTarget? (session : Session) : Option String :=
  session.focus.path.or ((environment.editor.active session.trace).map Document.path)

/-- Without anything to show there is no active document either, and the search for it fails. -/
theorem run_previewPath (session : Session) :
    (previewPath environment).run session =
      match previewTarget? environment session with
      | some path => (.ok path, session)
      | none => (.error (.failed .noActiveDocument), session) := by
  rw [previewPath, run_get_bind]
  cases focused : session.focus.path with
  | some path =>
    simp only [previewTarget?, focused, Option.some_or]
    rfl
  | none =>
    simp only [previewTarget?, focused, Option.none_or]
    rw [activePath, run_get_bind]
    cases environment.editor.active session.trace with
    | some document => rfl
    | none => rfl

/-- What the next preview of a session is started with. -/
def nextLaunch (session : Session) (kind : Preview.Kind) (path : String) : Preview.Launch :=
  ⟨environment.draw session.drawn, path, kind, session.settings.preview.refresh,
    session.settings.colorTheme⟩

/-- The request by which the server is asked to start a preview. -/
def launchCall (connection : Connection) (launch : Preview.Launch) : Call :=
  .request ⟨.number connection.nextId, "workspace/executeCommand",
    .ofFields [("command", .string "tinymist.doStartPreview"),
      ("arguments", .array [.ofTexts launch.arguments])]⟩ connection.requestTimeout

/-- The session once the identifier is drawn and the server was asked. -/
def asking (session : Session) (launch : Preview.Launch) : Session :=
  { session with
    drawn := session.drawn ++ [launch.taskId]
    connection := { session.connection with nextId := session.connection.nextId + 1 }.record
      (launchCall session.connection launch) }

/-- What the server says about the preview, given the calls so far. An answer without content says
nothing. -/
def startedAnswer (trace : Trace) : Except Rpc.TransportError Preview.Started :=
  ((environment.peer.request trace).bind
    (Connection.accept (Json.nullable Json.anyValue))).bind fun answer =>
      match answer with
      | none => .ok .unknown
      | some value => (Preview.Started.decode value).mapError .ofDecode

/-- Asking the server for a preview makes one request, and the answer is read. -/
theorem run_startPreview (launch : Preview.Launch) (session : Session) :
    let call := launchCall session.connection launch
    (startPreview environment launch).run session =
      ((startedAnswer environment (session.trace ++ [call])).mapError
          fun cause => .failed (.transport cause),
        { session with
          connection := { session.connection with
            nextId := session.connection.nextId + 1 }.record call }) := by
  intro call
  let asked := { session.connection with nextId := session.connection.nextId + 1 }.record call
  have asks : (Connection.execute environment.peer "tinymist.doStartPreview"
      [.ofTexts launch.arguments]).run session.connection =
      ((environment.peer.request (session.trace ++ [call])).bind
        (Connection.accept (Json.nullable Json.anyValue)), asked) :=
    Connection.run_request environment.peer "workspace/executeCommand" _ _ session.connection
  unfold startedAnswer
  cases answer : (environment.peer.request (session.trace ++ [call])).bind
      (Connection.accept (Json.nullable Json.anyValue)) with
  | error cause =>
    rw [answer] at asks
    exact run_bind_error (run_overConnection_error asks)
  | ok content =>
    rw [answer] at asks
    rw [startPreview, execute, run_bind_ok (run_overConnection_ok asks)]
    cases content with
    | none => rfl
    | some value =>
      dsimp only [Except.bind]
      cases Preview.Started.decode value with
      | ok started => rfl
      | error error => rfl

/-- How a launch fails, why, and what it leaves: there is nothing to show; the server refuses or its
answer cannot be read; the identifier is live; or the editor refuses to open the preview, whose task
is registered by then. -/
inductive LaunchFails (kind : Preview.Kind) (session : Session) : ClientError → Session → Prop where
  | nothingToShow (missing : previewTarget? environment session = none) :
      LaunchFails kind session .noActiveDocument session
  | unstarted {path : String} {cause : Rpc.TransportError}
      (shown : previewTarget? environment session = some path)
      (refused : startedAnswer environment
        (session.asking (nextLaunch environment session kind path)).trace = .error cause) :
      LaunchFails kind session (.transport cause)
        (session.asking (nextLaunch environment session kind path))
  | duplicate {path : String} {started : Preview.Started}
      (shown : previewTarget? environment session = some path)
      (answered : startedAnswer environment
        (session.asking (nextLaunch environment session kind path)).trace = .ok started)
      (live : environment.draw session.drawn ∈ session.tasks.ids) :
      LaunchFails kind session (.duplicateTask ⟨environment.draw session.drawn⟩)
        (session.asking (nextLaunch environment session kind path))
  | unopened {path : String} {started : Preview.Started} {reason : String} {after : Session}
      (shown : previewTarget? environment session = some path)
      (answered : startedAnswer environment
        (session.asking (nextLaunch environment session kind path)).trace = .ok started)
      (free : environment.draw session.drawn ∉ session.tasks.ids)
      (opened : after = (session.asking (nextLaunch environment session kind path)).openedWith
        (environment.draw session.drawn) started)
      (refused : environment.editor.outcome after.trace = .error reason) :
      LaunchFails kind session (.editor reason) after

/-- What follows the answer of the server: the task is registered, and the preview is opened. -/
theorem registerAndOpen_fails {task : String} {started : Preview.Started} {session after : Session}
    {halt : Halt}
    (failed : (do
      registerPreview task
      ask environment.editor (.openPreview task started)
      return task : Action String).run session = (.error halt, after)) :
    (task ∈ session.tasks.ids ∧ halt = .failed (.duplicateTask ⟨task⟩) ∧ after = session) ∨
      (task ∉ session.tasks.ids ∧ after = session.openedWith task started ∧
        ∃ reason, halt = .failed (.editor reason) ∧
          environment.editor.outcome after.trace = .error reason) := by
  have registration := run_registerPreview task session
  by_cases live : task ∈ session.tasks.ids
  · have held : session.tasks.contains task = true := by simpa [TaskRegistry.contains] using live
    rw [TaskRegistry.register, if_pos held] at registration
    rw [run_bind_error registration] at failed
    obtain ⟨cause, same⟩ := Prod.mk.inj failed
    exact .inl ⟨live, (Except.error.inj cause).symm, same.symm⟩
  · have free : session.tasks.contains task = false := by simpa [TaskRegistry.contains] using live
    rw [TaskRegistry.register, if_neg (by simp [free])] at registration
    rw [run_bind_ok registration] at failed
    let opened := session.openedWith task started
    have asked : (ask environment.editor (.openPreview task started)).run
        { session with tasks := ⟨session.tasks.tasks ++ [(task, .closePreview task)]⟩ } =
        ((environment.editor.outcome opened.trace).mapError
          fun reason => .failed (.editor reason), opened) :=
      run_ask environment.editor (.openPreview task started) _
    refine .inr ⟨live, ?_⟩
    cases outcome : environment.editor.outcome opened.trace with
    | ok done =>
      rw [outcome] at asked
      rw [run_bind_ok asked] at failed
      cases failed
    | error reason =>
      rw [outcome] at asked
      rw [run_bind_error asked] at failed
      obtain ⟨cause, rfl⟩ := Prod.mk.inj failed
      exact ⟨rfl, reason, (Except.error.inj cause).symm, outcome⟩

/-- A launch that fails does so in one of these ways. -/
theorem launchPreview_fails {kind : Preview.Kind} {session after : Session} {halt : Halt}
    (failed : (launchPreview environment kind).run session = (.error halt, after)) :
    ∃ error, halt = .failed error ∧ LaunchFails environment kind session error after := by
  have chosen := run_previewPath environment session
  cases shown : previewTarget? environment session with
  | none =>
    rw [shown] at chosen
    rw [launchPreview, run_bind_error chosen] at failed
    obtain ⟨cause, rfl⟩ := Prod.mk.inj failed
    exact ⟨_, (Except.error.inj cause).symm, .nothingToShow shown⟩
  | some path =>
    rw [shown] at chosen
    let launch := nextLaunch environment session kind path
    let reserving := { session with drawn := session.drawn ++ [launch.taskId] }
    have drawn : (launchPreview environment kind).run session = (do
        let started ← startPreview environment launch
        registerPreview launch.taskId
        ask environment.editor (.openPreview launch.taskId started)
        return launch.taskId : Action String).run reserving := by
      rw [launchPreview, run_bind_ok chosen]
      rfl
    rw [drawn] at failed
    have answers : (startPreview environment launch).run reserving =
        ((startedAnswer environment (session.asking launch).trace).mapError
          fun cause => .failed (.transport cause), session.asking launch) :=
      run_startPreview environment launch reserving
    cases answered : startedAnswer environment (session.asking launch).trace with
    | error cause =>
      rw [answered] at answers
      rw [run_bind_error answers] at failed
      obtain ⟨halted, rfl⟩ := Prod.mk.inj failed
      exact ⟨_, (Except.error.inj halted).symm, .unstarted shown answered⟩
    | ok started =>
      rw [answered] at answers
      rw [run_bind_ok answers] at failed
      obtain ⟨live, rfl, rfl⟩ | ⟨free, opened, reason, rfl, refused⟩ :=
        registerAndOpen_fails environment failed
      · exact ⟨_, rfl, .duplicate shown answered live⟩
      · exact ⟨_, rfl, .unopened shown answered free opened refused⟩

section Left

variable {environment : Environment} {kind : Preview.Kind} {session after : Session}

/-- Whoever else refuses, no task is registered by then. -/
theorem LaunchFails.tasks {error : ClientError}
    (fails : LaunchFails environment kind session error after)
    (others : ∀ reason, error ≠ .editor reason) : after.tasks = session.tasks := by
  cases fails with
  | nothingToShow missing => rfl
  | unstarted shown refused => rfl
  | duplicate shown answered live => rfl
  | @unopened path started reason _ shown answered free opened refused =>
    exact absurd rfl (others reason)

/-- The task of a launch: when the editor refuses, it was registered, and the editor was asked. -/
theorem LaunchFails.registered {reason : String}
    (fails : LaunchFails environment kind session (.editor reason) after) :
    environment.draw session.drawn ∉ session.tasks.ids ∧
      ∃ launch started, launch.taskId = environment.draw session.drawn ∧
        after = (session.asking launch).openedWith launch.taskId started ∧
        environment.editor.outcome after.trace = .error reason := by
  cases fails with
  | unopened shown answered free opened refused =>
    exact ⟨free, _, _, rfl, opened, refused⟩

end Left

/-- A launch that fails leaves a task behind exactly if the editor refused to open the preview. In
every other case the live tasks are those before the launch, in their order and with their
teardowns. If the editor refused, the task that was drawn for the launch is live after it, behind
all others: the server was asked, the editor was asked, and nothing took the registration back.

Proof: a launch fails in one of four ways, and only the last of them comes after the
registration. -/
theorem failed_launch_leaves_task_iff_editor_refuses (kind : Preview.Kind)
    {session after : Session} {halt : Halt}
    (failed : (launchPreview environment kind).run session = (.error halt, after)) :
    let task := environment.draw session.drawn
    (after.tasks.ids = session.tasks.ids ↔ ∀ reason, halt ≠ .failed (.editor reason)) ∧
    ((∀ reason, halt ≠ .failed (.editor reason)) → after.tasks = session.tasks) ∧
    ∀ reason, halt = .failed (.editor reason) →
      task ∉ session.tasks.ids ∧
      after.tasks.tasks = session.tasks.tasks ++ [(task, .closePreview task)] ∧
      ∃ launch started,
        after.trace = session.trace ++
          [launchCall session.connection launch, .editor (.openPreview task started)] ∧
        environment.editor.outcome after.trace = .error reason := by
  intro task
  obtain ⟨error, rfl, fails⟩ := launchPreview_fails environment failed
  have kept (others : ∀ reason, Halt.failed error ≠ .failed (.editor reason)) :
      after.tasks = session.tasks :=
    fails.tasks fun reason same => others reason (congrArg Halt.failed same)
  have left (reason : String) (refused : Halt.failed error = .failed (.editor reason)) :
      task ∉ session.tasks.ids ∧
        after.tasks.tasks = session.tasks.tasks ++ [(task, .closePreview task)] ∧
        ∃ launch started,
          after.trace = session.trace ++
            [launchCall session.connection launch, .editor (.openPreview task started)] ∧
          environment.editor.outcome after.trace = .error reason := by
    cases refused
    obtain ⟨free, launch, started, drawn, opened, outcome⟩ := fails.registered
    rw [drawn] at opened
    refine ⟨free, by rw [opened]; rfl, launch, started, ?_, outcome⟩
    rw [opened]
    exact List.append_assoc session.trace [_] [_]
  refine ⟨⟨?_, fun others => congrArg TaskRegistry.ids (kept others)⟩, kept, left⟩
  intro same reason refused
  have longer : after.tasks.ids = session.tasks.ids ++ [task] := by
    simp only [TaskRegistry.ids, (left reason refused).2.1, List.map_append, List.map_cons,
      List.map_nil]
  simp [longer] at same

/-- Calm surroundings, but the editor can open nothing. -/
def shuttered : Environment :=
  { calm with editor := { calm.editor with outcome := fun _ => .error "no panel" } }

/-- Calm surroundings, but the server answers no request. -/
def unresponsive : Environment :=
  { calm with peer := { calm.peer with request := fun _ => .error .serviceStopped } }

/-- A session in which a path is focused. -/
def focused : Session :=
  { fresh (.inWorkspace (.fixed "tinymist") "/") with focus := ⟨some "/main.typ", none⟩ }

/-- A preview that the editor cannot open stays registered; one that the server does not start is
never registered. -/
theorem shuttered_editor_leaves_task :
    ((launchPreview shuttered .webview).run focused).1 = .error (.failed (.editor "no panel")) ∧
    ((launchPreview shuttered .webview).run focused).2.tasks.tasks =
      focused.tasks.tasks ++ [("preview-0", .closePreview "preview-0")] ∧
    ((launchPreview shuttered .webview).run focused).2.tasks.ids ≠ focused.tasks.ids ∧
    ((launchPreview unresponsive .webview).run focused).1 =
      .error (.failed (.transport .serviceStopped)) ∧
    ((launchPreview unresponsive .webview).run focused).2.tasks = focused.tasks := by
  have refused : ((launchPreview shuttered .webview).run focused).1 =
      .error (.failed (.editor "no panel")) := by decide +kernel
  have stopped : ((launchPreview unresponsive .webview).run focused).1 =
      .error (.failed (.transport .serviceStopped)) := by decide +kernel
  obtain ⟨leaves, -, left⟩ := failed_launch_leaves_task_iff_editor_refuses shuttered .webview
    (Prod.ext refused rfl)
  obtain ⟨-, kept, -⟩ := failed_launch_leaves_task_iff_editor_refuses unresponsive .webview
    (Prod.ext stopped rfl)
  obtain ⟨-, registered, -⟩ := left "no panel" rfl
  exact ⟨refused, registered, fun same => leaves.mp same "no panel" rfl, stopped,
    kept fun _ => nofun⟩

end LanguageClient.Session
