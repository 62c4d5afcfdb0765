import LanguageClient.Proofs.EventHubLaws
import LanguageClient.Proofs.Milestones

/-!
# What a start and a stop do

A start passes the launch and the introduction, unless it fails before. If it fails, the session is
stopped; the transport is stopped only if the launch succeeded.

A stop disposes the tasks and ends the subscription first. Only then it asks the server to shut
down, tells it to exit if it agreed, and stops the transport.
-/

namespace LanguageClient

/-- The subscriptions that live on after a group was disposed are those outside of it. -/
theorem Subscription.mem_live_disposeAll (group : List Subscription) (hub : EventHub) (id : Nat) :
    id ∈ (disposeAll group hub).live ↔ id ∈ hub.live ∧ ⟨id, true⟩ ∉ group := by
  rw [disposeAll_eq]
  simp

namespace Session

variable (environment : Environment)

/-- What becomes of launching the server: it is not launched since the transport cannot be listened
to, or its launch fails, or it is launched and the session counts as running. -/
theorem launch_cases (binary : String) (session : Session) :
    let config := LaunchConfig.inDirectory binary session.options.root session.options.arguments
    let launched := { session with
      listening := true
      connection := session.connection.record (.start config) }
    (∃ error, (launch environment binary).run session = (.error (.failed error), session)) ∨
      (∃ cause, environment.peer.start (session.trace ++ [.start config]) = .error cause ∧
        (launch environment binary).run session =
          (.error (.failed (.transport cause)), launched)) ∨
      (environment.peer.start (session.trace ++ [.start config]) = .ok () ∧
        (launch environment binary).run session =
          (.ok (), { launched with lifecycle := .running })) := by
  intro config launched
  have listens := Connection.run_listen environment.peer session.connection
  cases heard : environment.peer.listen session.connection.trace with
  | error cause =>
    rw [heard] at listens
    exact .inl ⟨_, run_bind_error (run_overConnection_error listens)⟩
  | ok done =>
    rw [heard] at listens
    let listening := { session with listening := true }
    have heeded : (launch environment binary).run session = (do
        overConnection (Connection.launch environment.peer config)
        modify fun session => { session with lifecycle := .running } : Action Unit).run listening :=
      run_bind_ok (run_overConnection_ok listens)
    have launches := Connection.run_launch environment.peer config listening.connection
    rw [heeded]
    cases answered : environment.peer.start (session.connection.trace ++ [.start config]) with
    | error cause =>
      rw [answered] at launches
      exact .inr (.inl ⟨cause, answered, run_bind_error (run_overConnection_error launches)⟩)
    | ok done =>
      rw [answered] at launches
      exact .inr (.inr ⟨answered, run_bind_ok (run_overConnection_ok launches)⟩)

/-- The steps of a start once the server is launched, with the settings resolved before. -/
def converse (settled : Session) : Action Unit := do
  let _ ← overConnection (Connection.introduce environment.peer environment.processId
    (Uri.ofFilePath? settled.options.root.toList) (some settled.resolved.toJson))
  subscribe
  bringUpToDate environment

/-- What becomes of the steps of a start. -/
theorem run_bringUp {session settled : Session}
    (resolved : ((resolveSettings environment).run session).2 = settled) :
    (bringUp environment).run session =
      match serverBinary environment settled with
      | .error notFound => (.error (.failed (.serverBinary notFound)), settled)
      | .ok binary => (do
          launch environment binary
          converse environment settled : Action Unit).run settled := by
  subst resolved
  let settled := ((resolveSettings environment).run session).2
  change (match serverBinary environment settled with
    | .error notFound => fail (.serverBinary notFound)
    | .ok binary => (do
        launch environment binary
        converse environment settled : Action Unit)).run settled = _
  cases serverBinary environment settled with
  | error notFound => rfl
  | ok binary => rfl

/-- Introducing the client passes the introduction, whether it fails or not. -/
theorem introduce_passes (peer : Peer) (processId : Json) (root : Option Uri)
    (options : Option Json) :
    Leads (fun before after => Trace.Passes [.introduction] before.trace after.trace)
      (Connection.introduce peer processId root options) := by
  have asks : Leads (fun before after => Trace.Passes [.introduction] before.trace after.trace)
      (Connection.request peer "initialize" (Connection.introduction processId root options)
        Capabilities.Introduction.decode) := by
    intro connection
    rw [Connection.request_sent]
    exact ⟨_, rfl, rfl⟩
  have confirms (answer : Capabilities.Introduction) :
      Leads (Connection.Calls fun call => call.milestone? = none) (do
        modify fun connection => { connection with
          capabilities := connection.capabilities.or (some answer.capabilities) }
        Connection.notify peer "initialized" (.object [])
        return answer : Connection.Action Capabilities.Introduction) := by
    refine .bind (.modify fun connection => refl_of (Trace.Grows _) connection.trace) fun _ => ?_
    refine .bind (Connection.notify_calls peer ?_) fun _ => .pure _
    intro notification named
    simp [Call.milestone?, named]
  exact .bind_comp asks confirms (fun asked confirmed => asked.append confirmed.passes) id

/-- Announcing the open documents and the first main file is uneventful. -/
theorem bringUpToDate_uneventful : Leads Uneventful (bringUpToDate environment) := by
  have announced (primary : String) (opened : List Document) : Leads Uneventful
      (overConnection (DocumentSync.replay environment.peer primary opened)) := by
    have calls : Leads (Connection.Calls fun call => call.milestone? = none)
        (DocumentSync.replay environment.peer primary opened) := by
      refine .bind (Connection.announceAll_calls environment.peer ?_ _) fun _ => .pure _
      intro notification named
      simp [Call.milestone?, named]
    exact (overConnection_calls calls).mono fun _ _ => .calls_of
  refine .bind .get fun session => .bind (announced _ _) fun _ => ?_
  exact uneventful_ordinary.focusFirst environment

/-- Once the server is launched the introduction is passed. If nothing fails there is one
subscription more, and its receiver is the one that is read. -/
theorem converse_passes (settled session : Session) :
    Passes [.introduction] session ((converse environment settled).run session).2 ∧
      (((converse environment settled).run session).1 = .ok () → ∃ id,
        ((converse environment settled).run session).2.subscriptions =
            session.subscriptions ++ [⟨id, true⟩] ∧
          ((converse environment settled).run session).2.receiver = some id) := by
  have introduced := introduce_passes environment.peer environment.processId
    (Uri.ofFilePath? settled.options.root.toList) (some settled.resolved.toJson) session.connection
  cases outcome : (Connection.introduce environment.peer environment.processId
      (Uri.ofFilePath? settled.options.root.toList) (some settled.resolved.toJson)).run
      session.connection with
  | mk result connection =>
    rw [outcome] at introduced
    unfold converse
    cases result with
    | error cause =>
      rw [run_bind_error (run_overConnection_error outcome)]
      exact ⟨⟨rfl, introduced⟩, nofun⟩
    | ok answer =>
      rw [run_bind_ok (run_overConnection_ok outcome)]
      let subscribed := { session with
        connection := connection
        source := session.source.subscribe.2
        subscriptions := session.subscriptions ++ [session.source.subscribe.1]
        receiver := some session.source.subscribe.1.id }
      have rest := bringUpToDate_uneventful environment subscribed
      change Passes _ _ ((bringUpToDate environment).run subscribed).2 ∧
        (_ → ∃ id, ((bringUpToDate environment).run subscribed).2.subscriptions = _ ∧
          ((bringUpToDate environment).run subscribed).2.receiver = _)
      refine ⟨⟨rest.lifecycle, introduced.append rest.calls⟩, fun _ => ?_⟩
      exact ⟨session.source.next, rest.subscriptions, rest.receiver⟩

/-- The server was launched, the launch succeeded, and some milestones were passed after it. -/
def Launched (environment : Environment) (passed : List Milestone) (session after : Session) :
    Prop :=
  ∃ config, environment.peer.start (session.trace ++ [.start config]) = .ok () ∧
    Trace.Passes passed (session.trace ++ [.start config]) after.trace

/-- The launch comes first among the milestones. -/
theorem Launched.passes {environment : Environment} {passed : List Milestone}
    {session after : Session} (launched : Launched environment passed session after) :
    Trace.Passes (.launch :: passed) session.trace after.trace := by
  obtain ⟨config, -, calls⟩ := launched
  have launch : Trace.Passes [.launch] session.trace (session.trace ++ [.start config]) :=
    ⟨_, rfl, rfl⟩
  exact launch.append calls

/-- How the steps of a start come out: the server is not launched, its launch is refused, or it is
launched and the client introduced. -/
inductive BroughtUp (environment : Environment) (session : Session) :
    Except Halt Unit → Session → Prop where
  | unlaunched {error : ClientError} {after : Session} (passes : Passes [] session after) :
      BroughtUp environment session (.error (.failed error)) after
  | refused {error : ClientError} {after : Session} (passes : Passes [.launch] session after) :
      BroughtUp environment session (.error (.failed error)) after
  | launched {result : Except Halt Unit} {after : Session}
      (launched : Launched environment [.introduction] session after)
      (running : after.lifecycle = .running)
      (subscribed : result = .ok () → ∃ id,
        after.subscriptions = session.subscriptions ++ [⟨id, true⟩] ∧ after.receiver = some id) :
      BroughtUp environment session result after

/-- The steps of a start come out in one of these ways. -/
theorem bringUp_broughtUp (session : Session) :
    BroughtUp environment session ((bringUp environment).run session).1
      ((bringUp environment).run session).2 := by
  obtain ⟨settled, resolved⟩ : ∃ settled, ((resolveSettings environment).run session).2 = settled :=
    ⟨_, rfl⟩
  have still : Passes [] session settled :=
    resolved ▸ ⟨rfl, [], (List.append_nil _).symm, rfl⟩
  rw [run_bringUp environment resolved]
  cases serverBinary environment settled with
  | error notFound => exact .unlaunched still
  | ok binary =>
    obtain ⟨error, unheard⟩ | ⟨cause, -, refused⟩ | ⟨succeeded, launched⟩ :=
      launch_cases environment binary settled
    · dsimp only
      rw [run_bind_error unheard]
      exact .unlaunched still
    · dsimp only
      rw [run_bind_error refused]
      subst resolved
      exact .refused ⟨rfl, [_], rfl, rfl⟩
    · dsimp only
      rw [run_bind_ok launched]
      obtain ⟨passes, subscribed⟩ := converse_passes environment settled _
      subst resolved
      exact .launched ⟨_, succeeded, passes.calls⟩ passes.lifecycle subscribed

/-- The session once its work is ended: the tasks are disposed, the subscriptions ended, and the
receiver is dropped. -/
def released (session : Session) : Session :=
  let source := Subscription.disposeAll session.subscriptions session.source
  { session with
    lifecycle := .stopped
    tasks := .empty
    connection := { session.connection with
      trace := session.trace ++ (session.tasks.tasks.map Prod.snd).map .editor }
    source := match session.receiver with
      | some id => source.dropReceiver id
      | none => source
    subscriptions := []
    receiver := none }

/-- Closing previews is no milestone. -/
theorem released_passes (session : Session) :
    Trace.Passes [] session.trace session.released.trace := by
  refine ⟨_, rfl, ?_⟩
  simp [Trace.milestones, Call.milestone?]

/-- Once the work is ended, the subscriptions that live on are those that the session did not hold. -/
theorem mem_released_live {session : Session} {id : Nat} :
    id ∈ session.released.source.live ↔
      id ∈ session.source.live ∧ ⟨id, true⟩ ∉ session.subscriptions := by
  rw [← Subscription.mem_live_disposeAll, released]
  cases session.receiver <;> rfl

/-- The one subscription of a session does not live on once the work is ended. -/
theorem released_live {session : Session} {id : Nat} (only : session.subscriptions = [⟨id, true⟩]) :
    id ∉ session.released.source.live := by
  rw [mem_released_live, only]
  simp

/-- What follows the end of the work goes on from there. -/
theorem run_release {α : Type} (next : PUnit → Action α) (session : Session) :
    (do
      disposeTasks
      releaseSource >>= next : Action α).run { session with lifecycle := .stopped } =
      (next ⟨⟩).run session.released := by
  rw [run_bind_ok (run_disposeTasks _)]
  rfl

/-- The session once a start was undone: the work is ended, nothing is listened to, and the transport
was stopped if the session counted as running. -/
def abandoned (session : Session) : Session :=
  { session.released with
    listening := false
    connection := if session.isRunning then session.released.connection.record .stop
      else session.released.connection }

/-- What becomes of undoing a start. Whether the transport could be stopped does not matter. -/
theorem run_abandon (session : Session) :
    (abandon environment).run session = (.ok (), session.abandoned) := by
  let silent := { session.released with listening := false }
  have opened : (abandon environment).run session =
      (if session.isRunning then ignoring (overConnection (Connection.stop environment.peer))
        else pure () : Action Unit).run silent :=
    run_release _ session
  rw [opened, abandoned]
  cases session.isRunning with
  | false => rfl
  | true =>
    rw [if_pos rfl, run_ignoring_overConnection, Connection.run_stop]
    rfl

/-- Undoing a start leaves the session stopped. The transport is stopped if the session counted as
running. -/
theorem abandon_passes (session : Session) :
    ∃ after, (abandon environment).run session = (.ok (), after) ∧ after.lifecycle = .stopped ∧
      after.receiver = none ∧
      Trace.Passes (if session.isRunning then [.stop] else []) session.trace after.trace := by
  refine ⟨session.abandoned, run_abandon environment session, rfl, rfl, ?_⟩
  have closed := released_passes session
  simp only [trace, abandoned] at closed ⊢
  cases session.isRunning with
  | false => exact closed
  | true => exact closed.append ⟨[.stop], rfl, rfl⟩

/-- How a start of an idle session comes out. If it completes, the server was launched and the
client introduced, and the session has its subscription. If it fails, the session is stopped; the
transport is stopped if the server was launched, and only then. -/
inductive Started (environment : Environment) (session : Session) :
    Except Halt Unit → Session → Prop where
  | completed {after : Session} {id : Nat}
      (launched : Launched environment [.introduction] session after)
      (running : after.lifecycle = .running)
      (subscriptions : after.subscriptions = session.subscriptions ++ [⟨id, true⟩])
      (receiver : after.receiver = some id) : Started environment session (.ok ()) after
  | failed {halt : Halt} {after : Session} (stopped : after.lifecycle = .stopped)
      (receiver : after.receiver = none)
      (calls : Trace.Passes [] session.trace after.trace ∨
        Trace.Passes [.launch] session.trace after.trace ∨
        Launched environment [.introduction, .stop] session after) :
      Started environment session (.error halt) after

/-- A start of an idle session comes out in one of these ways. -/
theorem start_started {session : Session} (idle : session.lifecycle = .idle) :
    Started environment session ((start environment).run session).1
      ((start environment).run session).2 := by
  have broughtUp := bringUp_broughtUp environment session
  rw [run_start, if_pos idle, bringUpOrAbandon]
  cases outcome : (bringUp environment).run session with
  | mk result reached =>
    have attempted := run_attempt (bringUp environment) session
    rw [outcome] at attempted broughtUp
    cases result with
    | ok done =>
      rw [run_bind_ok attempted]
      cases broughtUp with
      | launched launched running subscribed =>
        obtain ⟨id, subscriptions, receiver⟩ := subscribed rfl
        exact .completed launched running subscriptions receiver
    | error halt =>
      cases halt with
      | overflow => exact absurd (congrArg Prod.fst outcome) (bringUp_avoids environment session)
      | failed error =>
        rw [run_bind_ok attempted]
        obtain ⟨undone, abandoned, stopped, receiver, passes⟩ := abandon_passes environment reached
        rw [run_bind_ok abandoned]
        let apology : EditorCall := .showError ("Failed to start tinymist: " ++ error.message)
        let told := { undone with connection := undone.connection.record (.editor apology) }
        have shown : Trace.Passes [] undone.trace told.trace := ⟨[_], rfl, rfl⟩
        refine Started.failed stopped receiver ?_
        change Trace.Passes _ _ told.trace ∨ Trace.Passes _ _ told.trace ∨ Launched _ _ _ told
        cases broughtUp with
        | unlaunched still =>
          rw [isRunning, still.lifecycle, idle] at passes
          exact .inl ((still.calls.append passes).append shown)
        | refused launched =>
          rw [isRunning, launched.lifecycle, idle] at passes
          exact .inr (.inl ((launched.calls.append passes).append shown))
        | launched launched running subscribed =>
          obtain ⟨config, succeeded, calls⟩ := launched
          rw [isRunning, running] at passes
          exact .inr (.inr ⟨config, succeeded, (calls.append passes).append shown⟩)

/-- The request by which the server is asked to shut down. -/
def shutdownCall (connection : Connection) : Call :=
  .request ⟨.number connection.nextId, "shutdown", .null⟩ connection.requestTimeout

/-- Whether the server agrees when it is asked to shut down. -/
def agrees (ready : Session) : Bool :=
  ((environment.peer.request (ready.trace ++ [shutdownCall ready.connection])).bind
    (Connection.accept Connection.nothing)).isOk

/-- The last calls to the server: it is asked to shut down; if it agrees it is told to exit; and the
transport is stopped. -/
def partingCalls (ready : Session) : List Call :=
  shutdownCall ready.connection ::
    ((if agrees environment ready then [.notification ⟨"exit", .null⟩] else []) ++ [.stop])

/-- What follows the end of the work when the session is stopped. -/
def takeLeave : Action Unit := do
  dismiss environment
  overConnection (Connection.stop environment.peer)
  modify fun session => { session with listening := false }

/-- Asking the server to shut down, and telling it to exit if it agrees. -/
theorem run_dismiss (ready : Session) :
    ∃ connection, (dismiss environment).run ready =
        (.ok (), { ready with connection := connection }) ∧
      connection.trace = ready.trace ++ shutdownCall ready.connection ::
        if agrees environment ready then [.notification ⟨"exit", .null⟩] else [] := by
  let asked := { ready.connection with nextId := ready.connection.nextId + 1 }.record
    (shutdownCall ready.connection)
  have asks : (Connection.shutdown environment.peer).run ready.connection =
      ((environment.peer.request (ready.trace ++ [shutdownCall ready.connection])).bind
        (Connection.accept Connection.nothing), asked) :=
    Connection.run_request environment.peer "shutdown" .null Connection.nothing ready.connection
  have attempted := run_attempt (overConnection (Connection.shutdown environment.peer)) ready
  unfold dismiss agrees
  cases answer : (environment.peer.request (ready.trace ++ [shutdownCall ready.connection])).bind
      (Connection.accept Connection.nothing) with
  | ok done =>
    rw [answer] at asks
    rw [run_overConnection_ok asks] at attempted
    rw [run_bind_ok attempted]
    refine ⟨_, run_ignoring_overConnection _ _, ?_⟩
    rw [Connection.exit, Connection.run_notify]
    exact List.append_assoc ready.trace [_] [_]
  | error cause =>
    rw [answer] at asks
    rw [run_overConnection_error asks] at attempted
    rw [run_bind_ok attempted]
    exact ⟨asked, rfl, rfl⟩

/-- Taking leave makes the last calls, whether the transport can be stopped or not. -/
theorem takeLeave_calls (ready : Session) :
    ((takeLeave environment).run ready).2.lifecycle = ready.lifecycle ∧
      ((takeLeave environment).run ready).2.receiver = ready.receiver ∧
      ((takeLeave environment).run ready).2.trace =
        ready.trace ++ partingCalls environment ready := by
  obtain ⟨connection, dismissed, trace⟩ := run_dismiss environment ready
  have halts := Connection.run_stop environment.peer connection
  have last : connection.trace ++ [.stop] = ready.trace ++ partingCalls environment ready := by
    rw [trace, partingCalls, List.append_assoc]
    rfl
  rw [takeLeave, run_bind_ok dismissed]
  cases stopped : environment.peer.stop (connection.trace ++ [.stop]) with
  | ok done =>
    rw [stopped] at halts
    rw [run_bind_ok (run_overConnection_ok halts)]
    exact ⟨rfl, rfl, last⟩
  | error cause =>
    rw [stopped] at halts
    rw [run_bind_error (run_overConnection_error halts)]
    exact ⟨rfl, rfl, last⟩

/-- A stop of a running session ends the work and then takes leave of the server. -/
theorem run_stop {session : Session} (running : session.isRunning = true) :
    (stop environment).run session = (takeLeave environment).run session.released := by
  have opened : (stop environment).run session = (if session.isRunning then do
      set { session with lifecycle := .stopped }
      disposeTasks
      releaseSource
      takeLeave environment
    else pure () : Action Unit).run session := rfl
  rw [opened, if_pos running, run_set_bind]
  exact run_release _ session

/-- A session that is not running is not stopped. -/
theorem run_stop_still {session : Session} (still : session.isRunning = false) :
    (stop environment).run session = (.ok (), session) := by
  rw [stop, run_get_bind, if_neg (by simp [still])]
  rfl

end Session

end LanguageClient
