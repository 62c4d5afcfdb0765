import LanguageClient.Proofs.ConfigurationPulls
import LanguageClient.Proofs.TaskAccounts
import LanguageClient.Proofs.WordTotals

/-!
# What a message of the server does

A request of the server is replied to once, under its own identifier, and this is all that it does.
A notification makes calls to the editor and none to the server, and the only part of the session
that it may change is the registry of tasks, from which the end of a preview removes one. Whatever
the client cannot read, a stretch to reveal that lacks an end, methods that it does not know and
responses do nothing at all.

What a message does is one relation between the message, the calls that are made for it and the
tasks that are left. Each statement about messages is read off its cases.
-/

namespace LanguageClient

/-- The methods of notifications that the client acts on. -/
def ServerNotification.methods : List String :=
  ["tinymist/compileStatus", "tinymist/preview/scrollSource", "tinymist/documentOutline",
    "tinymist/preview/dispose"]

/-- Of a notification of another method only the name is kept. -/
theorem ServerNotification.decode_other {notice : Rpc.Notification}
    (other : notice.method ∉ methods) : decode notice = .ok (.other notice.method) := by
  simp only [methods, List.mem_cons, List.not_mem_nil, or_false, not_or] at other
  unfold decode
  split <;> simp_all

/-- Messages that ask for nothing: responses, notifications of a known method with parameters that
do not decode, a stretch to reveal that lacks an end, and notifications of any other method. -/
inductive Rpc.Message.Inert : Rpc.Message → Prop where
  | response (response : Rpc.Response) : Inert (.response response)
  | unreadStatus {notice : Rpc.Notification} {error : Json.DecodeError}
      (named : notice.method = "tinymist/compileStatus")
      (unread : CompileStatus.decode notice.params = .error error) : Inert (.notification notice)
  | unreadScroll {notice : Rpc.Notification} {error : Json.DecodeError}
      (named : notice.method = "tinymist/preview/scrollSource")
      (unread : ScrollSource.decode notice.params = .error error) : Inert (.notification notice)
  | unreadDispose {notice : Rpc.Notification} {error : Json.DecodeError}
      (named : notice.method = "tinymist/preview/dispose")
      (unread : PreviewDispose.decode notice.params = .error error) : Inert (.notification notice)
  | openScroll {notice : Rpc.Notification} {scroll : ScrollSource}
      (named : notice.method = "tinymist/preview/scrollSource")
      (read : ScrollSource.decode notice.params = .ok scroll)
      (lacking : scroll.start = none ∨ scroll.stop = none) : Inert (.notification notice)
  | unknown {notice : Rpc.Notification} (other : notice.method ∉ ServerNotification.methods) :
      Inert (.notification notice)

/-- The message says that a preview task ended. -/
inductive Rpc.Message.Disposes : Rpc.Message → String → Prop where
  | dispose {notice : Rpc.Notification} {task : String}
      (named : notice.method = "tinymist/preview/dispose")
      (read : PreviewDispose.decode notice.params = .ok ⟨task⟩) :
      Disposes (.notification notice) task

namespace Session

variable (environment : Environment)

/-- The reply that a request of the server is due: the resolved items of a configuration in their
order, invalid parameters if the items do not decode, nothing for the creation of a progress, and
for every other method that it is not found. -/
inductive DueReply (trace : Trace) (request : Rpc.Request) : Reply → Prop where
  | resolved {pull : Settings.Pull} (named : request.method = "workspace/configuration")
      (read : Settings.Pull.decode request.params = .ok pull) :
      DueReply trace request
        (.result (.array (pull.items.map (Settings.Pull.answerTo
          (environment.editor.configuration trace) (bindings environment.editor trace)))))
  | unread {error : Json.DecodeError} (named : request.method = "workspace/configuration")
      (unread : Settings.Pull.decode request.params = .error error) :
      DueReply trace request (.error ⟨-32602, error.message, none⟩)
  | progress (named : request.method = "window/workDoneProgress/create") :
      DueReply trace request (.result .null)
  | unknown
      (other : request.method ∉ ["workspace/configuration", "window/workDoneProgress/create"]) :
      DueReply trace request (.error ⟨-32601, "method not found: " ++ request.method, none⟩)

/-- What a message does: the calls that are made for it, and the tasks that are left. -/
inductive Handled (session : Session) :
    Rpc.Message → List Call → TaskRegistry EditorCall → Prop where
  | replied {request : Rpc.Request} {reply : Reply}
      (due : DueReply environment session.trace request reply) :
      Handled session (.request request) [.reply request.id reply] session.tasks
  | reported {notice : Rpc.Notification} {status : CompileStatus}
      (named : notice.method = "tinymist/compileStatus")
      (read : CompileStatus.decode notice.params = .ok status) :
      Handled session (.notification notice)
        [.editor (.setStatus ⟨CompileStatus.level status.phase, status.summary, status.tooltip⟩)]
        session.tasks
  | revealed {notice : Rpc.Notification} {path : String} {start stop : UInt32 × UInt32}
      (named : notice.method = "tinymist/preview/scrollSource")
      (read : ScrollSource.decode notice.params = .ok ⟨path, some start, some stop⟩) :
      Handled session (.notification notice)
        [.editor (.showRange path ⟨⟨start.1, start.2⟩, ⟨stop.1, stop.2⟩⟩)] session.tasks
  | outlined {notice : Rpc.Notification} (named : notice.method = "tinymist/documentOutline") :
      Handled session (.notification notice) [.editor (.updateOutline notice.params)] session.tasks
  | disposed {notice : Rpc.Notification} {task : String}
      (named : notice.method = "tinymist/preview/dispose")
      (read : PreviewDispose.decode notice.params = .ok ⟨task⟩) :
      Handled session (.notification notice)
        ((session.tasks.dispose task).1.toList.map .editor) (session.tasks.dispose task).2
  | inert {message : Rpc.Message} (inert : message.Inert) :
      Handled session message [] session.tasks

/-- The reply to a request is the one that it is due. -/
theorem replyTo_due (trace : Trace) (request : Rpc.Request) :
    DueReply environment trace request (replyTo environment trace request) := by
  unfold replyTo
  split
  case h_1 named =>
    rw [answerPull]
    cases read : Settings.Pull.decode request.params with
    | error error => exact .unread named read
    | ok pull =>
      dsimp only
      rw [Settings.Pull.answers_eq_map]
      exact .resolved named read
  case h_2 named => exact .progress named
  case h_3 configuration progress =>
    exact .unknown (by simpa using And.intro configuration progress)

/-- The state after calls that leave these tasks. -/
def afterwards (session : Session) (calls : List Call) (tasks : TaskRegistry EditorCall) :
    Session :=
  { session.logging calls with tasks := tasks }

/-- Without a call nothing happened. -/
@[simp] theorem afterwards_nil (session : Session) :
    session.afterwards [] session.tasks = session := by
  simp [afterwards, logging, trace]

/-- A request is replied to, whatever becomes of the reply. -/
theorem run_handleRequest (request : Rpc.Request) (session : Session) :
    (handleRequest environment request).run session =
      (.ok (), session.afterwards
        [.reply request.id (replyTo environment session.trace request)] session.tasks) := by
  rw [handleRequest, run_get_bind, run_ignoring_overConnection, Connection.reply,
    Connection.run_recorded]
  rfl

/-- What is asked of the editor with its outcome ignored is one call. -/
theorem run_ignoring_ask (call : EditorCall) (session : Session) :
    (ignoring (ask environment.editor call)).run session =
      (.ok (), session.afterwards [.editor call] session.tasks) := by
  have attempted := run_attempt (ask environment.editor call) session
  rw [run_ask] at attempted
  cases outcome : environment.editor.outcome (session.trace ++ [.editor call]) with
  | ok done =>
    rw [outcome] at attempted
    exact run_bind_ok attempted
  | error reason =>
    rw [outcome] at attempted
    exact run_bind_ok attempted

/-- An outcome is what one of the cases says, and no failure. -/
def Settles (session : Session) (message : Rpc.Message) (outcome : Except Halt Unit × Session) :
    Prop :=
  ∃ calls tasks, Handled environment session message calls tasks ∧
    outcome = (.ok (), session.afterwards calls tasks)

/-- A message that asks for nothing leaves everything as it is. -/
theorem Settles.inert {message : Rpc.Message} (inert : message.Inert) (session : Session) :
    Settles environment session message (.ok (), session) :=
  ⟨[], session.tasks, .inert inert, by rw [afterwards_nil]⟩

section Notifications

variable {notice : Rpc.Notification} (session : Session)

/-- A report on a compilation is displayed. -/
theorem settles_compileStatus (named : notice.method = "tinymist/compileStatus")
    (fits : ∀ status ∈ (Rpc.Message.notification notice).compileStatus?, ¬ status.Overflows) :
    Settles environment session (.notification notice)
      ((handleNotification environment notice).run session) := by
  have decoded : ServerNotification.decode notice =
      (CompileStatus.decode notice.params).map .compileStatus := by
    simp only [ServerNotification.decode, named]
  rw [handleNotification, decoded]
  cases read : CompileStatus.decode notice.params with
  | error error => exact .inert environment (.unreadStatus named read) session
  | ok status =>
    have displayed : ¬ status.Overflows := by
      apply fits
      simp [Rpc.Message.compileStatus?, named, read, Except.toOption]
    obtain ⟨overflows, -⟩ | ⟨-, shown⟩ := run_compileStatus environment status session
    · exact absurd overflows displayed
    · exact ⟨_, _, .reported named read, shown⟩

/-- A stretch of a source file is revealed if both of its ends are given. -/
theorem settles_scrollSource (named : notice.method = "tinymist/preview/scrollSource") :
    Settles environment session (.notification notice)
      ((handleNotification environment notice).run session) := by
  have decoded : ServerNotification.decode notice =
      (ScrollSource.decode notice.params).map .scrollSource := by
    simp only [ServerNotification.decode, named]
  rw [handleNotification, decoded]
  cases read : ScrollSource.decode notice.params with
  | error error => exact .inert environment (.unreadScroll named read) session
  | ok scroll =>
    obtain ⟨path, start, stop⟩ := scroll
    cases start with
    | none => exact .inert environment (.openScroll named read (.inl rfl)) session
    | some first =>
      cases stop with
      | none => exact .inert environment (.openScroll named read (.inr rfl)) session
      | some last => exact ⟨_, _, .revealed named read, run_ignoring_ask environment _ session⟩

/-- The end of a preview task disposes the task. -/
theorem settles_previewDispose (named : notice.method = "tinymist/preview/dispose") :
    Settles environment session (.notification notice)
      ((handleNotification environment notice).run session) := by
  have decoded : ServerNotification.decode notice =
      (PreviewDispose.decode notice.params).map .previewDispose := by
    simp only [ServerNotification.decode, named]
  rw [handleNotification, decoded]
  cases read : PreviewDispose.decode notice.params with
  | error error => exact .inert environment (.unreadDispose named read) session
  | ok dispose =>
    exact ⟨_, _, .disposed named read, run_bind_ok (disposeTask_run dispose.taskId session)⟩

/-- An outline is shown as it is. -/
theorem settles_documentOutline (named : notice.method = "tinymist/documentOutline") :
    Settles environment session (.notification notice)
      ((handleNotification environment notice).run session) := by
  have decoded : ServerNotification.decode notice = .ok (.documentOutline notice.params) := by
    simp only [ServerNotification.decode, named]
  rw [handleNotification, decoded]
  exact ⟨_, _, .outlined named, rfl⟩

end Notifications

/-- Handling a message comes to one of the cases.

Proof: by the kind of the message, and for a notification by the method that it is decoded by. -/
theorem settles_handleMessage (session : Session) (message : Rpc.Message)
    (fits : ∀ status ∈ message.compileStatus?, ¬ status.Overflows) :
    Settles environment session message ((handleMessage environment message).run session) := by
  cases message with
  | request request =>
    exact ⟨_, _, .replied (replyTo_due environment session.trace request),
      run_handleRequest environment request session⟩
  | response response => exact .inert environment (.response response) session
  | notification notice =>
    rw [handleMessage]
    by_cases known : notice.method ∈ ServerNotification.methods
    · simp only [ServerNotification.methods, List.mem_cons, List.not_mem_nil, or_false] at known
      obtain named | named | named | named := known
      · exact settles_compileStatus environment session named fits
      · exact settles_scrollSource environment session named
      · exact settles_documentOutline environment session named
      · exact settles_previewDispose environment session named
    · rw [handleNotification, ServerNotification.decode_other known]
      exact .inert environment (.unknown known) session

namespace Handled

variable {environment} {session : Session} {message : Rpc.Message} {calls : List Call}
  {tasks : TaskRegistry EditorCall}

/-- Only the editor is called for what is no request. -/
theorem editor_only (handled : Handled environment session message calls tasks)
    (unasked : ∀ request, message ≠ .request request) :
    ∀ call ∈ calls, ∃ shown, call = .editor shown := by
  intro call member
  cases handled with
  | replied due => exact absurd rfl (unasked _)
  | inert inert => cases member
  | disposed named read =>
    obtain ⟨shown, -, rfl⟩ := List.mem_map.mp member
    exact ⟨shown, rfl⟩
  | reported named read => exact ⟨_, List.mem_singleton.mp member⟩
  | revealed named read => exact ⟨_, List.mem_singleton.mp member⟩
  | outlined named => exact ⟨_, List.mem_singleton.mp member⟩

/-- Nothing is done about a message that asks for nothing.

Proof: in every other case the method is known, and the parameters decode to what the case needs. -/
theorem still (handled : Handled environment session message calls tasks)
    (inert : message.Inert) : calls = [] ∧ tasks = session.tasks := by
  cases handled with
  | inert inert => exact ⟨rfl, rfl⟩
  | replied due => cases inert
  | outlined named => cases inert <;> simp_all [ServerNotification.methods]
  | reported named read => cases inert <;> simp_all [ServerNotification.methods]
  | revealed named read =>
    cases inert with
    | openScroll _ again lacking =>
      obtain rfl := Except.ok.inj (read.symm.trans again)
      simp at lacking
    | _ => simp_all [ServerNotification.methods]
  | disposed named read => cases inert <;> simp_all [ServerNotification.methods]

/-- The end of a preview removes its task. -/
theorem tasks_of_disposes (handled : Handled environment session message calls tasks)
    {id : String} (disposes : message.Disposes id) : tasks = (session.tasks.dispose id).2 := by
  obtain ⟨named, read⟩ := disposes
  cases handled with
  | disposed _ again =>
    obtain rfl := PreviewDispose.mk.inj (Except.ok.inj (again.symm.trans read))
    rfl
  | inert inert => cases inert <;> simp_all [ServerNotification.methods]
  | _ => simp_all

/-- Only the end of a preview may change the tasks. -/
theorem tasks_unless (handled : Handled environment session message calls tasks) :
    tasks = session.tasks ∨ ∃ id, message.Disposes id := by
  cases handled with
  | disposed named read => exact .inr ⟨_, .dispose named read⟩
  | _ => exact .inl rfl

/-- The tasks change exactly if a live preview ended. -/
theorem tasks_change (handled : Handled environment session message calls tasks) :
    tasks ≠ session.tasks ↔ ∃ id, message.Disposes id ∧ id ∈ session.tasks.ids := by
  constructor
  · intro changed
    obtain same | ⟨id, disposes⟩ := handled.tasks_unless
    · exact absurd same changed
    · refine ⟨id, disposes, ?_⟩
      by_contra absent
      rw [handled.tasks_of_disposes disposes] at changed
      exact changed ((session.tasks.dispose_eq_self_iff id).mpr absent)
  · rintro ⟨id, disposes, live⟩ same
    rw [handled.tasks_of_disposes disposes] at same
    exact (session.tasks.dispose_eq_self_iff id).mp same live

end Handled

/-- What a message of the server does, from whatever state and whatever becomes of the calls, unless
it is a report whose total exceeds its word. Handling it does not fail, and changes no more than the
trace and the tasks. A request is replied to once, under its own identifier and with the reply that
it is due, and this is the only call. For any other message nothing is sent to the server. The tasks
change exactly if the end of a live preview is reported, and then this task is removed and nothing
else. What asks for nothing does nothing: responses, parameters that do not decode, a stretch to
reveal that lacks an end, and unknown methods.

Proof: a message comes to one of few cases, in each of which the calls and the tasks are known. -/
theorem server_messages_do_no_more_than_asked (session : Session) (message : Rpc.Message)
    (fits : ∀ status ∈ message.compileStatus?, ¬ status.Overflows) :
    ∃ calls tasks, Handled environment session message calls tasks ∧
      (handleMessage environment message).run session =
        (.ok (), { session with
          tasks := tasks
          connection := { session.connection with trace := session.trace ++ calls } }) ∧
      (∀ request, message = .request request →
        ∃ reply, DueReply environment session.trace request reply ∧
          calls = [.reply request.id reply] ∧ tasks = session.tasks) ∧
      ((∀ request, message ≠ .request request) → ∀ call ∈ calls, ∃ shown, call = .editor shown) ∧
      (tasks ≠ session.tasks ↔ ∃ id, message.Disposes id ∧ id ∈ session.tasks.ids) ∧
      (∀ id, message.Disposes id → tasks.tasks = session.tasks.tasks.filter (·.1 != id)) ∧
      (message.Inert → calls = [] ∧ tasks = session.tasks) := by
  obtain ⟨calls, tasks, handled, outcome⟩ := settles_handleMessage environment session message fits
  refine ⟨calls, tasks, handled, outcome, ?_, handled.editor_only, handled.tasks_change, ?_,
    handled.still⟩
  · rintro request rfl
    cases handled with
    | replied due => exact ⟨_, due, rfl, rfl⟩
    | inert inert => cases inert
  · intro id disposes
    rw [handled.tasks_of_disposes disposes]
    rfl

/-- The end of one of two previews, told in the form of a list: the other one is left, and nothing
is sent to the server. -/
theorem ended_preview_is_removed_alone :
    let session : Session :=
      { fresh (.inWorkspace (.fixed "tinymist") "/") with
        tasks := ⟨[("a", .closePreview "a"), ("b", .closePreview "b")]⟩ }
    let message : Rpc.Message := .notification ⟨"tinymist/preview/dispose", .array [.string "a"]⟩
    (∀ status ∈ message.compileStatus?, ¬ status.Overflows) ∧ message.Disposes "a" ∧
    ∃ calls tasks,
      (handleMessage calm message).run session =
        (.ok (), { session with
          tasks := tasks
          connection := { session.connection with trace := session.trace ++ calls } }) ∧
      tasks.tasks = [("b", .closePreview "b")] ∧ ∀ call ∈ calls, ∃ shown, call = .editor shown := by
  intro session message
  have fits : ∀ status ∈ message.compileStatus?, ¬ status.Overflows := by
    have none : message.compileStatus? = none := by decide +kernel
    simp [none]
  have disposes : message.Disposes "a" := .dispose rfl (by decide +kernel)
  obtain ⟨calls, tasks, -, outcome, -, unsent, -, removed, -⟩ :=
    server_messages_do_no_more_than_asked calm session message fits
  exact ⟨fits, disposes, calls, tasks, outcome, removed "a" disposes, unsent nofun⟩

end Session

end LanguageClient
