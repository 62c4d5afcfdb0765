import LanguageClient.Proofs.IdleSessions
import LanguageClient.Proofs.MainFile

/-!
# The traffic of a start

A start sends its messages in a fixed order: the client is introduced and confirms, every open
document that the server does not synchronize itself is announced in the order of the editor, and
the first main file is announced. The messages are sent up to the first failure, so those of any
start are the first of this sequence; the whole of it is sent exactly if the start succeeds, since a
failure of the last message is ignored.

A start that fails is undone wherever it broke off. The user is shown the error once, the transport
is stopped exactly if the server was launched, and nothing of the session is left behind.
-/

namespace LanguageClient

/-- Whether a call sends a message to the server. -/
def Call.isMessage : Call → Bool
  | .request _ _ | .notification _ | .reply _ _ => true
  | .start _ | .stop | .editor _ => false

/-- The text of an error that a call shows to the user. -/
def Call.shownError? : Call → Option String
  | .editor (.showError text) => some text
  | _ => none

/-- A message neither shows an error nor sets the indicator. -/
theorem Call.unseen_of_isMessage {call : Call} (sent : call.isMessage = true) :
    call.shownError? = none ∧ call.isFocus = false := by
  cases call with
  | editor call => cases sent
  | _ => exact ⟨rfl, rfl⟩

namespace Trace

/-- The messages among some calls. -/
def messages (trace : Trace) : List Call := trace.filter Call.isMessage

/-- The messages of a trace are those of its parts. -/
theorem messages_append (first second : Trace) :
    messages (first ++ second) = messages first ++ messages second :=
  List.filter_append first second

/-- The errors that were shown. -/
def errorsShown (trace : Trace) : List String := trace.filterMap Call.shownError?

end Trace

namespace Session

variable (environment : Environment)

/-- The session once its settings are resolved. -/
def settle (session : Session) : Session := ((resolveSettings environment).run session).2

/-- The launch of the server, if there is a binary to launch. -/
def launchCalls (settled : Session) : List Call :=
  (serverBinary environment settled).toOption.toList.map fun binary =>
    .start (.inDirectory binary settled.options.root settled.options.arguments)

/-- What the client says when it is introduced with the resolved settings. -/
def startupIntroduction (settled : Session) : Json :=
  Connection.introduction environment.processId (Uri.ofFilePath? settled.options.root.toList)
    (some settled.resolved.toJson)

/-- The messages of a start up to the last: the introduction, its confirmation, and an opening for
every document that qualifies among those open once the client is introduced. -/
def preliminaries (settled : Session) (launched : Trace) : List Call :=
  let introduction := settled.connection.introductionCalls (startupIntroduction environment settled)
  introduction ++ ((environment.editor.documents (launched ++ introduction)).filter
    (DocumentSync.qualifies settled.options.primary)).map DocumentSync.openingCall

/-- The document that a start focuses: the active one if it is primary, or else the first visible
one that is. -/
def startupFocus? (settled : Session) (opened : Trace) : Option Document :=
  let primary := FocusState.isPrimary settled.options.primary
  ((environment.editor.active opened).filter primary).or
    ((environment.editor.visible opened).find? primary)

/-- The last message of a start: the path of the focused document is announced as main file. -/
def startupMain (settled : Session) (opened : Trace) : Call :=
  .request ⟨.number (settled.connection.nextId + 1), "workspace/executeCommand",
    focusMain ((startupFocus? environment settled opened).map Document.path)⟩
    settled.connection.requestTimeout

/-- All messages of a start, in order. -/
def startupMessages (session : Session) : List Call :=
  let settled := session.settle environment
  let launched := session.trace ++ launchCalls environment settled
  let early := preliminaries environment settled launched
  early ++ [startupMain environment settled (launched ++ early)]

/-- All calls of a start that completes. The indicator is set before the last message. -/
def completeCalls (session : Session) (indicator : Bool) : List Call :=
  let settled := session.settle environment
  let launched := session.trace ++ launchCalls environment settled
  let early := preliminaries environment settled launched
  launchCalls environment settled ++ early ++
    [.editor (.setFocusIndicator indicator), startupMain environment settled (launched ++ early)]

/-- The session once the server is launched. -/
def launchedWith (settled : Session) (config : LaunchConfig) : Session :=
  { settled with
    listening := true
    connection := settled.connection.record (.start config)
    lifecycle := .running }

/-- Every live subscription is one that the session can end. -/
def Held (session : Session) : Prop :=
  ∀ id ∈ session.source.live, ⟨id, true⟩ ∈ session.subscriptions

/-- What a start has not touched where it breaks off: tasks and focus. Whatever subscription it has
made is held. -/
structure Untouched (before after : Session) : Prop where
  tasks : after.tasks = before.tasks
  focus : after.focus = before.focus
  held : Held before → Held after

/-- A new subscription is held. -/
theorem Held.subscribe {session : Session} (held : Held session) :
    Held (Session.subscribe.run session).2 := by
  intro id live
  obtain old | new := List.mem_append.mp live
  · exact List.mem_append_left _ (held id old)
  · rw [List.mem_singleton.mp new]
    exact List.mem_append_right _ List.mem_cons_self

/-- The first evaluation of the focus sets the indicator and announces the main file, and always
succeeds. -/
theorem focusFirst_calls (session : Session) :
    ∃ after indicator, (focusFirst environment).run session = (.ok (), after) ∧
      after.trace = session.trace ++ [.editor (.setFocusIndicator indicator),
        .request ⟨.number session.connection.nextId, "workspace/executeCommand",
          focusMain ((startupFocus? environment session session.trace).map Document.path)⟩
          session.connection.requestTimeout] := by
  let move := session.focus.initial session.options.primary
    (environment.editor.active session.trace) (environment.editor.visible session.trace)
    (environment.editor.documents session.trace)
  have focused := run_applyFocus environment move.2 { session with focus := move.1 }
  exact ⟨_, move.2.indicator, focused, rfl⟩

/-- What becomes of the conversation that follows a launch: it breaks off after the first messages,
or all are sent and the indicator is set before the last. -/
theorem converse_cases (settled : Session) (config : LaunchConfig) :
    let launched := settled.launchedWith config
    let early := preliminaries environment settled launched.trace
    (∃ error left made,
      (converse environment settled).run launched = (.error (.failed error), left) ∧
        left.trace = launched.trace ++ made ∧ made <+: early ∧
        left.lifecycle = .running ∧ Untouched launched left) ∨
    ∃ after indicator,
      (converse environment settled).run launched = (.ok (), after) ∧
        after.trace = launched.trace ++ early ++ [.editor (.setFocusIndicator indicator),
          startupMain environment settled (launched.trace ++ early)] := by
  intro launched early
  let introduction := settled.connection.introductionCalls (startupIntroduction environment settled)
  obtain ⟨cause, left, made, broke, trace, part⟩ | ⟨answer, capabilities, introduced⟩ :=
    Connection.run_introduce environment.peer environment.processId
      (Uri.ofFilePath? settled.options.root.toList) (some settled.resolved.toJson)
      launched.connection
  · refine .inl ⟨_, _, made, run_bind_error (run_overConnection_error broke), trace, ?_, rfl, ?_⟩
    · exact part.trans (List.prefix_append _ _)
    · exact ⟨rfl, rfl, id⟩
  · let subscribed := (subscribe.run { launched with connection := { launched.connection with
      nextId := launched.connection.nextId + 1
      capabilities := capabilities
      trace := launched.trace ++ introduction } }).2
    have conversed : (converse environment settled).run launched = (do
        let _ ← overConnection (DocumentSync.replay environment.peer settled.options.primary
          (environment.editor.documents subscribed.trace))
        focusFirst environment : Action Unit).run subscribed :=
      run_bind_ok (run_overConnection_ok introduced)
    rw [conversed]
    obtain ⟨cause, made, broke, part⟩ | ⟨count, replayed⟩ :=
      DocumentSync.run_replay environment.peer settled.options.primary
        (environment.editor.documents subscribed.trace) subscribed.connection
    · refine .inl ⟨_, _, introduction ++ made, run_bind_error (run_overConnection_error broke),
        List.append_assoc _ _ _, ?_, rfl, rfl, rfl, Held.subscribe⟩
      exact (List.prefix_append_right_inj _).mpr part
    · let opened := { subscribed with connection := { subscribed.connection with
        trace := launched.trace ++ early } }
      have announced : (DocumentSync.replay environment.peer settled.options.primary
          (environment.editor.documents subscribed.trace)).run subscribed.connection =
          (.ok count, opened.connection) := by
        rw [replayed]
        exact congrArg (fun trace => (Except.ok count, { subscribed.connection with trace := trace }))
          (List.append_assoc launched.trace introduction _)
      obtain ⟨after, indicator, focused, trace⟩ := focusFirst_calls environment opened
      exact .inr ⟨after, indicator,
        (run_bind_ok (run_overConnection_ok announced)).trans focused, trace⟩

/-- Where the steps of a start break off, after which calls, and whether the session counts as
running then: before the launch, at the launch, or in the conversation after it. -/
inductive BreaksOff (session : Session) : List Call → Bool → Prop where
  | unlaunched : BreaksOff session [] false
  | refused {config : LaunchConfig} {cause : Rpc.TransportError}
      (refused : environment.peer.start (session.trace ++ [.start config]) = .error cause) :
      BreaksOff session [.start config] false
  | interrupted {config : LaunchConfig} {made : List Call}
      (chosen : launchCalls environment (session.settle environment) = [.start config])
      (succeeded : environment.peer.start (session.trace ++ [.start config]) = .ok ())
      (part : made <+: preliminaries environment (session.settle environment)
        (session.trace ++ [.start config])) :
      BreaksOff session (.start config :: made) true

/-- How the steps of a start come out, with the calls that they make. -/
theorem bringUp_cases (session : Session) :
    (∃ error left calls running,
      (bringUp environment).run session = (.error (.failed error), left) ∧
        BreaksOff environment session calls running ∧ left.trace = session.trace ++ calls ∧
        left.lifecycle = (if running then .running else session.lifecycle) ∧
        Untouched session left) ∨
    ∃ after indicator,
      (bringUp environment).run session = (.ok (), after) ∧
        after.trace = session.trace ++ completeCalls environment session indicator := by
  let settled := session.settle environment
  rw [run_bringUp environment (rfl : _ = settled)]
  cases chosen : serverBinary environment settled with
  | error notFound =>
    exact .inl ⟨_, settled, [], false, rfl, .unlaunched, (List.append_nil _).symm, rfl,
      rfl, rfl, id⟩
  | ok binary =>
    let config := LaunchConfig.inDirectory binary settled.options.root settled.options.arguments
    have calls : launchCalls environment settled = [.start config] := by
      rw [launchCalls, chosen]
      rfl
    dsimp only
    obtain ⟨error, unheard⟩ | ⟨cause, answered, refused⟩ | ⟨succeeded, running⟩ :=
      launch_cases environment binary settled
    · rw [run_bind_error unheard]
      exact .inl ⟨_, settled, [], false, rfl, .unlaunched, (List.append_nil _).symm, rfl,
        rfl, rfl, id⟩
    · rw [run_bind_error refused]
      exact .inl ⟨_, _, [.start config], false, rfl, .refused answered, rfl, rfl, rfl, rfl, id⟩
    · rw [run_bind_ok running]
      obtain ⟨error, left, made, broke, trace, part, lifecycle, untouched⟩ |
          ⟨after, indicator, completed, trace⟩ := converse_cases environment settled config
      · refine .inl ⟨error, left, .start config :: made, true, broke,
          .interrupted calls succeeded part, ?_, lifecycle, untouched.tasks, untouched.focus,
          untouched.held⟩
        rw [trace]
        exact List.append_assoc session.trace [_] made
      · have begun : (settled.launchedWith config).trace = session.trace ++ [.start config] := rfl
        rw [begun] at trace
        have regroup (early last : List Call) : session.trace ++ [.start config] ++ early ++ last =
            session.trace ++ ([.start config] ++ early ++ last) := by
          simp only [List.append_assoc]
        refine .inr ⟨after, indicator, completed, ?_⟩
        rw [trace, completeCalls, calls]
        exact regroup _ _

/-- Nothing but messages is sent in the conversation. -/
theorem preliminaries_messages (settled : Session) (launched : Trace) :
    ∀ call ∈ preliminaries environment settled launched, call.isMessage = true := by
  intro call inside
  obtain introduced | announced := List.mem_append.mp inside
  · simp only [Connection.introductionCalls, List.mem_cons, List.not_mem_nil, or_false] at introduced
    obtain rfl | rfl := introduced
    · rfl
    · rfl
  · obtain ⟨document, -, rfl⟩ := List.mem_map.mp announced
    rfl

/-- The call that shows why a start failed. -/
def apology (error : ClientError) : Call :=
  .editor (.showError ("Failed to start tinymist: " ++ error.message))

/-- The calls that undo a start: the previews are closed, the transport is stopped if the server was
launched, and the error is shown. -/
def undoingCalls (left : Session) (error : ClientError) : List Call :=
  (left.tasks.tasks.map Prod.snd).map .editor ++ (if left.isRunning then [.stop] else []) ++
    [apology error]

/-- The session after a start that broke off was undone and the error was shown. -/
def undone (left : Session) (error : ClientError) : Session :=
  { left.abandoned with connection := left.abandoned.connection.record (apology error) }

/-- The calls that undo a start come after those before it broke off. -/
theorem undone_trace (left : Session) (error : ClientError) :
    (left.undone error).trace = left.trace ++ left.undoingCalls error := by
  simp only [undone, undoingCalls, trace, abandoned, released]
  cases left.isRunning <;> simp [Connection.record]

/-- What becomes of a start of an idle session. -/
theorem start_undone {session left : Session} {error : ClientError}
    (idle : session.lifecycle = .idle)
    (broke : (bringUp environment).run session = (.error (.failed error), left)) :
    (start environment).run session = (.error (.failed error), left.undone error) := by
  have attempted := run_attempt (bringUp environment) session
  rw [broke] at attempted
  rw [run_start, if_pos idle, bringUpOrAbandon, run_bind_ok attempted]
  exact run_bind_ok (run_abandon environment left)

/-- A start completes if its steps do. -/
theorem start_completed {session after : Session} (idle : session.lifecycle = .idle)
    (completed : (bringUp environment).run session = (.ok (), after)) :
    (start environment).run session = (.ok (), after) := by
  have attempted := run_attempt (bringUp environment) session
  rw [completed] at attempted
  rw [run_start, if_pos idle, bringUpOrAbandon, run_bind_ok attempted]
  rfl

/-- What a start that breaks off has called: the launch, and messages. -/
theorem BreaksOff.mem {environment : Environment} {session : Session} {calls : List Call}
    {running : Bool} (breaks : BreaksOff environment session calls running) {call : Call}
    (inside : call ∈ calls) : (∃ config, call = .start config) ∨ call.isMessage = true := by
  cases breaks with
  | unlaunched => cases inside
  | @refused config cause refused => exact .inl ⟨config, List.mem_singleton.mp inside⟩
  | @interrupted config made chosen succeeded part =>
    obtain rfl | later := List.mem_cons.mp inside
    · exact .inl ⟨config, rfl⟩
    · exact .inr (preliminaries_messages environment _ _ call (part.subset later))

/-- The messages of a start that breaks off are the first of those up to the last. -/
theorem BreaksOff.messages {environment : Environment} {session : Session} {calls : List Call}
    {running : Bool} (breaks : BreaksOff environment session calls running) :
    Trace.messages calls <+: preliminaries environment (session.settle environment)
      (session.trace ++ launchCalls environment (session.settle environment)) := by
  cases breaks with
  | unlaunched => exact List.nil_prefix
  | refused refused => exact List.nil_prefix
  | @interrupted config made chosen succeeded part =>
    have sent : Trace.messages made = made := by
      refine List.filter_eq_self.mpr fun call inside => ?_
      exact preliminaries_messages environment _ _ call (part.subset inside)
    change Trace.messages made <+: _
    rw [sent, chosen]
    exact part

section Undoing

variable {left : Session} (error : ClientError)

/-- Undoing a start stops the transport once if the session counted as running, and else not. -/
theorem count_stop_undoingCalls :
    (left.undoingCalls error).count .stop = if left.isRunning then 1 else 0 := by
  have closing : ((left.tasks.tasks.map Prod.snd).map Call.editor).count .stop = 0 := by
    rw [List.count_eq_zero, List.mem_map]
    rintro ⟨teardown, -, stops⟩
    cases stops
  simp only [undoingCalls, List.count_append, closing]
  cases left.isRunning <;> rfl

variable (tidy : Tidy left)

include tidy

/-- Undoing a start closes previews, stops the transport and shows the error. -/
theorem mem_undoingCalls {call : Call} (inside : call ∈ left.undoingCalls error) :
    (∃ task, call = .editor (.closePreview task)) ∨ call = .stop ∨ call = apology error := by
  simp only [undoingCalls, List.mem_append, List.mem_map, List.mem_singleton] at inside
  obtain (⟨teardown, ⟨entry, live, rfl⟩, rfl⟩ | stops) | shows := inside
  · rw [tidy entry live]
    exact .inl ⟨entry.1, rfl⟩
  · split at stops
    · exact .inr (.inl (List.mem_singleton.mp stops))
    · cases stops
  · exact .inr (.inr shows)

/-- Undoing a start sends no message. -/
theorem messages_undoingCalls : Trace.messages (left.undoingCalls error) = [] := by
  refine List.filter_eq_nil_iff.mpr fun call inside => ?_
  obtain ⟨task, rfl⟩ | rfl | rfl := mem_undoingCalls error tidy inside
  · exact nofun
  · exact nofun
  · exact nofun

/-- Undoing a start shows the one error. -/
theorem errorsShown_undoingCalls :
    Trace.errorsShown (left.undoingCalls error) =
      ["Failed to start tinymist: " ++ error.message] := by
  have closing : ((left.tasks.tasks.map Prod.snd).map Call.editor).filterMap Call.shownError? =
      [] := by
    refine List.filterMap_eq_nil_iff.mpr fun call inside => ?_
    simp only [List.mem_map] at inside
    obtain ⟨teardown, ⟨entry, live, rfl⟩, rfl⟩ := inside
    rw [tidy entry live]
    rfl
  simp only [Trace.errorsShown, undoingCalls, List.filterMap_append, closing]
  cases left.isRunning <;> rfl

end Undoing

/-- What a start that failed has left: the error was shown once, the transport was stopped exactly if
its start had succeeded, and at most once; no subscription, receiver or live task remains; the focus
and its indicator were not touched; and the session is stopped. -/
structure Undone (session after : Session) (calls : List Call) (error : ClientError) : Prop where
  shown : Trace.errorsShown calls = ["Failed to start tinymist: " ++ error.message]
  halted : .stop ∈ calls ↔ ∃ config, [.start config] <+: calls ∧
    environment.peer.start (session.trace ++ [.start config]) = .ok ()
  once : calls.count .stop ≤ 1
  subscriptions : after.subscriptions = [] ∧ after.source.live = []
  receivers : after.receiver = none ∧ after.listening = false
  tasks : after.tasks = .empty
  focus : after.focus = session.focus
  indicator : ∀ call ∈ calls, call.isFocus = false
  stopped : after.lifecycle = .stopped

/-- Once the work of a session that holds its subscriptions is ended, none is live. -/
theorem Held.released {session : Session} (held : Held session) :
    session.released.source.live = [] := by
  rw [List.eq_nil_iff_forall_not_mem]
  intro id live
  obtain ⟨before, unheld⟩ := mem_released_live.mp live
  exact unheld (held id before)

/-- Where the start broke off the session counted as running exactly if the launch had succeeded.
Nothing that follows launches the server. -/
theorem BreaksOff.running_iff {environment : Environment} {session : Session}
    {calls rest : List Call} {running : Bool} (breaks : BreaksOff environment session calls running)
    (unlaunched : ∀ config, .start config ∉ rest) :
    running = true ↔ ∃ config, [.start config] <+: calls ++ rest ∧
      environment.peer.start (session.trace ++ [.start config]) = .ok () := by
  cases breaks with
  | unlaunched =>
    refine ⟨nofun, ?_⟩
    rintro ⟨config, first, -⟩
    exact absurd (first.subset List.mem_cons_self) (unlaunched config)
  | @refused config cause refused =>
    refine ⟨nofun, ?_⟩
    rintro ⟨other, ⟨tail, same⟩, succeeded⟩
    obtain ⟨⟩ := (List.cons.inj same).1
    rw [refused] at succeeded
    cases succeeded
  | @interrupted config made chosen succeeded part =>
    exact ⟨fun _ => ⟨config, ⟨made ++ rest, rfl⟩, succeeded⟩, fun _ => rfl⟩

/-- A start that breaks off and is undone leaves nothing. -/
theorem BreaksOff.undone {environment : Environment} {session left : Session} {calls : List Call}
    {running : Bool} (breaks : BreaksOff environment session calls running)
    (runs : left.isRunning = running) (untouched : Untouched session left)
    (tidy : Tidy left) (held : Held session) (error : ClientError) :
    Undone environment session (left.undone error) (calls ++ left.undoingCalls error) error := by
  have unstopped : calls.count .stop = 0 := by
    rw [List.count_eq_zero]
    intro inside
    obtain ⟨config, unlike⟩ | unsent := breaks.mem inside
    · cases unlike
    · cases unsent
  have stops : (calls ++ left.undoingCalls error).count .stop = if running then 1 else 0 := by
    rw [List.count_append, unstopped, count_stop_undoingCalls, runs, Nat.zero_add]
  have silent : Trace.errorsShown calls = [] := by
    refine List.filterMap_eq_nil_iff.mpr fun call inside => ?_
    obtain ⟨config, rfl⟩ | sent := breaks.mem inside
    · rfl
    · exact (Call.unseen_of_isMessage sent).1
  have unlaunched (config : LaunchConfig) : .start config ∉ left.undoingCalls error := by
    intro inside
    obtain ⟨task, unlike⟩ | unlike | unlike := mem_undoingCalls error tidy inside <;> cases unlike
  refine ⟨?_, ?_, ?_, ⟨rfl, (untouched.held held).released⟩, ⟨rfl, rfl⟩, rfl, untouched.focus, ?_,
    rfl⟩
  · rw [Trace.errorsShown, List.filterMap_append, ← Trace.errorsShown, silent]
    exact errorsShown_undoingCalls error tidy
  · rw [← breaks.running_iff unlaunched, ← List.count_pos_iff, stops]
    cases running <;> simp
  · rw [stops]
    cases running <;> simp
  · intro call inside
    obtain before | after := List.mem_append.mp inside
    · obtain ⟨config, rfl⟩ | sent := breaks.mem before
      · rfl
      · exact (Call.unseen_of_isMessage sent).2
    · obtain ⟨task, rfl⟩ | rfl | rfl := mem_undoingCalls error tidy after <;> rfl

/-- The messages of a start that breaks off and is undone are the first of a start, but not all. -/
theorem BreaksOff.messages_undone {environment : Environment} {session left : Session}
    {calls : List Call} {running : Bool} (breaks : BreaksOff environment session calls running)
    (tidy : Tidy left) (error : ClientError) :
    Trace.messages (calls ++ left.undoingCalls error) <+: startupMessages environment session ∧
      Trace.messages (calls ++ left.undoingCalls error) ≠ startupMessages environment session := by
  rw [Trace.messages_append, messages_undoingCalls error tidy, List.append_nil]
  constructor
  · exact breaks.messages.trans (List.prefix_append _ _)
  · intro whole
    have part := breaks.messages.length_le
    simp only [whole, startupMessages, List.length_append, List.length_singleton] at part
    omega

/-- Of the calls of a start that completes, the messages are the messages of a start. -/
theorem messages_completeCalls (session : Session) (indicator : Bool) :
    Trace.messages (completeCalls environment session indicator) =
      startupMessages environment session := by
  have unsent : Trace.messages (launchCalls environment (session.settle environment)) = [] := by
    refine List.filter_eq_nil_iff.mpr fun call inside => ?_
    obtain ⟨binary, -, rfl⟩ := List.mem_map.mp inside
    exact nofun
  have sent (launched : Trace) :
      Trace.messages (preliminaries environment (session.settle environment) launched) =
        preliminaries environment (session.settle environment) launched :=
    List.filter_eq_self.mpr (preliminaries_messages environment _ launched)
  rw [completeCalls, Trace.messages_append, Trace.messages_append, unsent, sent]
  rfl

/-- The messages that the first start of a session attempts, whatever was done with the session
before and whatever the editor, the settings, the transport and the server do, are the first of the
messages of a start, in their order: the introduction, its confirmation, an opening for each document
that qualifies in the order of the editor, and the announcement of the main file. All of them are
attempted exactly if the start succeeds. If it fails, it is undone.

Proof: the steps of a start break off before the launch, at the launch, or in the conversation, whose
messages are sent up to the first failure. The last message fails unnoticed, so that a start that
breaks off has not attempted it. -/
theorem start_sends_in_order_or_is_undone (options : Options) {happenings : List Happening}
    (unstarted : ∀ environment, .performed environment .start ∉ happenings) :
    let session := reached options happenings
    let outcome := (start environment).run session
    ∃ calls, outcome.2.trace = session.trace ++ calls ∧
      Trace.messages calls <+: startupMessages environment session ∧
      (Trace.messages calls = startupMessages environment session ↔ outcome.1 = .ok ()) ∧
      ∀ halt, outcome.1 = .error halt → ∃ error, halt = .failed error ∧
        Undone environment session outcome.2 calls error := by
  intro session outcome
  have idle : session.lifecycle = .idle := reached_idle unstarted
  have held : Held session := by
    intro id live
    rw [(reached_unheard idle).live] at live
    cases live
  obtain ⟨error, left, begun, running, broke, breaks, trace, lifecycle, untouched⟩ |
      ⟨after, indicator, completed, trace⟩ := bringUp_cases environment session
  · have failed : outcome = (.error (.failed error), left.undone error) :=
      start_undone environment idle broke
    have runs : left.isRunning = running := by
      rw [isRunning, lifecycle, idle]
      cases running <;> rfl
    have leftTidy : Tidy left := by
      intro entry live
      rw [untouched.tasks] at live
      exact reached_tidy options happenings entry live
    obtain ⟨first, notAll⟩ := breaks.messages_undone leftTidy error
    refine ⟨begun ++ left.undoingCalls error, ?_, first, ?_, ?_⟩
    · rw [failed, undone_trace, trace, List.append_assoc]
    · rw [failed]
      constructor
      · exact fun whole => absurd whole notAll
      · intro completed
        cases completed
    · rw [failed]
      rintro halt ⟨⟩
      exact ⟨error, rfl, breaks.undone runs untouched leftTidy held error⟩
  · have succeeded : outcome = (.ok (), after) := start_completed environment idle completed
    have sent := messages_completeCalls environment session indicator
    refine ⟨completeCalls environment session indicator, ?_, ?_, ?_, ?_⟩
    · rw [succeeded, trace]
    · exact ⟨[], (List.append_nil _).trans sent⟩
    · rw [sent, succeeded]
      constructor
      · exact fun _ => rfl
      · exact fun _ => rfl
    · rw [succeeded]
      intro halt failed
      cases failed

/-- A document of another language than the primary one. -/
def notes : Document := ⟨⟨"file:///work/notes.md", by decide +kernel⟩, "markdown", 1, "# Notes"⟩

/-- Surroundings with a letter, which is being edited, between notes. Up to a number of openings can
be announced. -/
def desk (announced : Nat) : Environment :=
  let table := reporting [notes, letter, notes]
  { table with
    editor := { table.editor with active := fun _ => some letter }
    peer := { table.peer with
      notify := fun trace =>
        if (trace.filter (· == DocumentSync.openingCall notes)).length ≤ announced then .ok ()
        else .error .serviceStopped } }

/-- A path is focused and previewed before the session is started. -/
def eagerPreview : List Happening :=
  ([.activatePath none (some "/main.typ"), .launchPreview .webview] : List Operation).map
    (.performed calm)

/-- A start that can announce all openings sends five messages. One that can announce only the first
breaks off at the second: the live preview is closed, and the server that was launched is stopped. -/
theorem eagerPreview_start_is_undone :
    let options := Options.inWorkspace (.fixed "tinymist") "/"
    let session := reached options eagerPreview
    session.tasks.ids = ["preview-0"] ∧
    (startupMessages (desk 2) session).length = 5 ∧
    (∃ calls, ((start (desk 2)).run session).2.trace = session.trace ++ calls ∧
      Trace.messages calls = startupMessages (desk 2) session) ∧
    ∃ calls, ((start (desk 1)).run session).2.trace = session.trace ++ calls ∧
      Trace.messages calls ≠ startupMessages (desk 1) session ∧ .stop ∈ calls ∧
      Undone (desk 1) session ((start (desk 1)).run session).2 calls
        (.transport .serviceStopped) := by
  intro options session
  have unstarted : ∀ environment, .performed environment .start ∉ eagerPreview := by
    simp [eagerPreview]
  have succeeds : ((start (desk 2)).run session).1 = .ok () := by decide +kernel
  have fails : ((start (desk 1)).run session).1 = .error (.failed (.transport .serviceStopped)) := by
    decide +kernel
  have stopped : .stop ∈ ((start (desk 1)).run session).2.trace.drop session.trace.length := by
    decide +kernel
  obtain ⟨sent, trace, -, whole, -⟩ := start_sends_in_order_or_is_undone (desk 2) options unstarted
  obtain ⟨calls, broken, -, part, undone⟩ :=
    start_sends_in_order_or_is_undone (desk 1) options unstarted
  obtain ⟨error, same, left⟩ := undone _ fails
  obtain ⟨⟩ := same
  refine ⟨by decide +kernel, by decide +kernel, ⟨sent, trace, whole.mpr succeeds⟩, calls, broken,
    fun all => ?_, ?_, left⟩
  · rw [part.mp all] at fails
    cases fails
  · rw [broken, List.drop_left] at stopped
    exact stopped

end Session

end LanguageClient
