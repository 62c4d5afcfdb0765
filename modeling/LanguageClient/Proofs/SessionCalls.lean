import LanguageClient.Proofs.ConnectionCalls
import LanguageClient.Session.Commands
import LanguageClient.Session.Loop

/-!
# The calls that a session makes

Most of what a session does is to make calls: the trace grows and nothing else changes. The calls
of the daily business are routine; commands, announcements and replies make no others.
-/

namespace LanguageClient

namespace Session

section Combinators

variable {α : Type} {relation : Session → Session → Prop}

/-- A failure alone does nothing. -/
theorem fail_leads [IsPreorder Session relation] (error : ClientError) :
    Leads relation (fail error : Action α) :=
  .throw _

/-- What becomes of an attempt. -/
theorem run_attempt (action : Action α) (session : Session) :
    (attempt action).run session =
      match action.run session with
      | (.ok value, after) => (.ok (.ok value), after)
      | (.error (.failed error), after) => (.ok (.error error), after)
      | (.error .overflow, after) => (.error .overflow, after) := by
  have opened : (attempt action).run session = _ := run_state_bind action.run _ session
  rw [opened]
  obtain ⟨result, after⟩ := action.run session
  cases result with
  | ok value => rfl
  | error halt => cases halt <;> rfl

/-- An attempt succeeds only if what was attempted did. -/
theorem of_run_attempt_ok {action : Action α} {session after : Session} {value : α}
    (succeeded : (attempt action).run session = (.ok (.ok value), after)) :
    action.run session = (.ok value, after) := by
  rw [run_attempt] at succeeded
  cases outcome : action.run session with
  | mk result reached =>
    rw [outcome] at succeeded
    cases result with
    | ok early =>
      cases succeeded
      rfl
    | error halt => cases halt <;> cases succeeded

/-- Keeping a failure as a value changes no more than what failed. -/
theorem attempt_leads {action : Action α} (leads : Leads relation action) :
    Leads relation (attempt action) := by
  intro session
  have reached := leads session
  rw [run_attempt]
  cases outcome : action.run session with
  | mk result after =>
    rw [outcome] at reached
    cases result with
    | ok value => exact reached
    | error halt => cases halt <;> exact reached

/-- Ignoring a failure changes no more than what failed. -/
theorem ignoring_leads [IsPreorder Session relation] {action : Action α}
    (leads : Leads relation action) : Leads relation (ignoring action) :=
  .bind (attempt_leads leads) fun _ => .pure _

/-- What becomes of something done over the connection. -/
theorem run_overConnection (action : Connection.Action α) (session : Session) :
    (overConnection action).run session =
      match action.run session.connection with
      | (.ok value, connection) => (.ok value, { session with connection := connection })
      | (.error cause, connection) =>
        (.error (.failed (.transport cause)), { session with connection := connection }) := by
  rw [overConnection, run_get_bind]
  obtain ⟨result, connection⟩ := action.run session.connection
  cases result with
  | ok value => rfl
  | error cause => rfl

/-- What something done over the connection leaves, whether it succeeds or not. -/
theorem overConnection_left (action : Connection.Action α) (session : Session) :
    ((overConnection action).run session).2 =
      { session with connection := (action.run session.connection).2 } := by
  rw [run_overConnection]
  cases (action.run session.connection) with
  | mk result connection => cases result <;> rfl

/-- What succeeds over the connection succeeds. -/
theorem run_overConnection_ok {action : Connection.Action α} {session : Session}
    {connection : Connection} {value : α}
    (completed : action.run session.connection = (.ok value, connection)) :
    (overConnection action).run session =
      (.ok value, { session with connection := connection }) := by
  rw [run_overConnection, completed]

/-- What fails over the connection fails with the cause. -/
theorem run_overConnection_error {action : Connection.Action α} {session : Session}
    {connection : Connection} {cause : Rpc.TransportError}
    (failed : action.run session.connection = (.error cause, connection)) :
    (overConnection action).run session =
      (.error (.failed (.transport cause)), { session with connection := connection }) := by
  rw [run_overConnection, failed]

/-- What is done over the connection with its failure ignored always succeeds. -/
theorem run_ignoring_overConnection (action : Connection.Action α) (session : Session) :
    (ignoring (overConnection action)).run session =
      (.ok (), { session with connection := (action.run session.connection).2 }) := by
  have attempted := run_attempt (overConnection action) session
  rw [run_overConnection] at attempted
  cases outcome : action.run session.connection with
  | mk result connection =>
    rw [outcome] at attempted
    cases result with
    | ok value => exact run_bind_ok attempted
    | error cause => exact run_bind_ok attempted

/-- What is done over the connection changes the connection alone. -/
theorem overConnection_leads {action : Connection.Action α} {law : Connection → Connection → Prop}
    (leads : Leads law action)
    (lifted : ∀ session connection, law session.connection connection →
      relation session { session with connection := connection }) :
    Leads relation (overConnection action) := by
  intro session
  have reached := lifted session _ (leads session.connection)
  rw [run_overConnection]
  cases outcome : action.run session.connection with
  | mk result connection =>
    rw [outcome] at reached
    cases result <;> exact reached

end Combinators

/-- The trace grows by calls of a kind, and nothing but the connection changes. -/
def Calls (allowed : Call → Prop) (before after : Session) : Prop :=
  after = { before with connection := after.connection } ∧
    Trace.Grows allowed before.trace after.trace

instance (allowed : Call → Prop) : IsPreorder Session (Calls allowed) where
  refl := fun session => ⟨rfl, refl_of (Trace.Grows allowed) session.trace⟩
  trans := by
    rintro first second third ⟨secondFrame, secondGrows⟩ ⟨thirdFrame, thirdGrows⟩
    refine ⟨?_, trans_of (Trace.Grows allowed) secondGrows thirdGrows⟩
    rw [thirdFrame, secondFrame]

variable {α : Type} {allowed : Call → Prop} (environment : Environment)

/-- The calls of what is done over the connection. -/
theorem overConnection_calls {action : Connection.Action α}
    (calls : Leads (Connection.Calls allowed) action) :
    Leads (Calls allowed) (overConnection action) :=
  overConnection_leads calls fun _ _ grows => ⟨rfl, grows⟩

/-- Telling the editor is one call. -/
theorem tell_calls {call : EditorCall} (fits : allowed (.editor call)) :
    Leads (Calls allowed) (tell call) :=
  .modify fun session => ⟨rfl, .snoc session.trace fits⟩

/-- What becomes of a call to the editor: it is recorded, and its outcome is the result. -/
theorem run_ask (editor : Editor) (call : EditorCall) (session : Session) :
    (ask editor call).run session =
      ((editor.outcome (session.trace ++ [.editor call])).mapError
          fun reason => .failed (.editor reason),
        { session with connection := session.connection.record (.editor call) }) := by
  let told := { session with connection := session.connection.record (.editor call) }
  have tells : (tell call).run session = (.ok (), told) := rfl
  have recorded : told.trace = session.trace ++ [.editor call] := rfl
  rw [ask, run_bind_ok tells, run_get_bind, recorded]
  cases editor.outcome (session.trace ++ [.editor call]) with
  | ok done => rfl
  | error reason => rfl

/-- Asking the editor is one call. -/
theorem ask_calls (editor : Editor) {call : EditorCall} (fits : allowed (.editor call)) :
    Leads (Calls allowed) (ask editor call) := by
  refine .bind (tell_calls fits) fun _ => .bind .get fun session => ?_
  split
  · exact .pure _
  · exact fail_leads _

/-- A question to the user is one call. -/
theorem prompt_calls {call : EditorCall} {answer : Trace → Option α}
    (fits : allowed (.editor call)) : Leads (Calls allowed) (prompt call answer) := by
  refine .bind (tell_calls fits) fun _ => .bind .get fun session => ?_
  split
  · exact .pure _
  · exact fail_leads _

/-- The state after calls to the editor. -/
theorem run_tellAll (calls : List EditorCall) (session : Session) :
    (tellAll calls).run session =
      (.ok (), { session with
        connection := { session.connection with
          trace := session.trace ++ calls.map Call.editor } }) := by
  induction calls generalizing session with
  | nil =>
    simp only [List.map_nil, List.append_nil]
    rfl
  | cons call calls inductionHypothesis =>
    have told : (tell call).run session =
        (.ok (), { session with connection := session.connection.record (.editor call) }) := rfl
    rw [tellAll, run_bind_ok told, inductionHypothesis]
    simp [trace, Connection.record]

/-- What becomes of the disposal of a task: its teardown is called, and the result tells whether the
task was live. -/
theorem disposeTask_run (id : String) (session : Session) :
    (disposeTask id).run session =
      (.ok (session.tasks.dispose id).1.isSome,
        { session with
          tasks := (session.tasks.dispose id).2
          connection := { session.connection with
            trace := session.trace ++ (session.tasks.dispose id).1.toList.map Call.editor } }) := by
  let without := { session with tasks := (session.tasks.dispose id).2 }
  have told := run_tellAll (session.tasks.dispose id).1.toList without
  change (tellAll (session.tasks.dispose id).1.toList >>= fun _ =>
    (pure (session.tasks.dispose id).1.isSome : Action Bool)).run without = _
  rw [run_bind_ok told]
  rfl

/-- The state after a task was disposed. -/
theorem run_disposeTask (id : String) (session : Session) :
    ((disposeTask id).run session).2 =
      { session with
        tasks := (session.tasks.dispose id).2
        connection := { session.connection with
          trace := session.trace ++ (session.tasks.dispose id).1.toList.map Call.editor } } :=
  congrArg Prod.snd (disposeTask_run id session)

/-- The state after all tasks were disposed. -/
theorem run_disposeTasks (session : Session) :
    disposeTasks.run session =
      (.ok (), { session with
        tasks := .empty
        connection := { session.connection with
          trace := session.trace ++ (session.tasks.tasks.map Prod.snd).map Call.editor } }) :=
  run_tellAll _ { session with tasks := .empty }

/-- Calls of the daily business. -/
abbrev Routine : Session → Session → Prop := Calls fun call => call.isRoutine = true

/-- A server command is routine. -/
theorem execute_routine (command : String) (arguments : List Json) :
    Leads Routine (execute environment command arguments) := by
  refine overConnection_calls (Connection.request_calls environment.peer ?_)
  intro request timeout named
  simp [Call.isRoutine, named]

/-- Looking for the active document makes no call. -/
theorem activePath_routine : Leads Routine (activePath environment) := by
  refine .bind .get fun session => ?_
  split
  · exact .pure _
  · exact fail_leads _

theorem exportActive_routine (format : ExportFormat) (extra : Option Json) :
    Leads Routine (exportActive environment format extra) := by
  refine .bind .get fun session => ?_
  split
  · exact .pure _
  · exact .bind (execute_routine environment _ _) fun _ => .pure _

theorem showExported_routine (format : ExportFormat) :
    Leads Routine (showExported environment format) := by
  refine .bind (exportActive_routine environment format none) fun exported => ?_
  cases exported with
  | some path => exact .bind (ask_calls environment.editor rfl) fun _ => .pure _
  | none => exact .bind (tell_calls rfl) fun _ => .pure _

theorem clearCache_routine : Leads Routine (clearCache environment) :=
  .bind (activePath_routine environment) fun _ =>
    .bind (execute_routine environment _ _) fun _ => .pure _

theorem pinMain_routine : Leads Routine (pinMain environment) :=
  .bind (activePath_routine environment) fun _ =>
    .bind (execute_routine environment _ _) fun _ => .pure _

theorem unpinMain_routine : Leads Routine (unpinMain environment) :=
  .bind (execute_routine environment _ _) fun _ => .pure _

theorem instantiateTemplate_routine (mode : TemplateMode) :
    Leads Routine (instantiateTemplate environment mode) := by
  refine .bind (prompt_calls rfl) fun template => ?_
  cases mode with
  | newLocation =>
    refine .bind (prompt_calls rfl) fun folder =>
      .bind (execute_routine environment _ _) fun answer => ?_
    dsimp only
    split
    · exact ask_calls environment.editor rfl
    · exact ask_calls environment.editor rfl
  | inPlace =>
    refine .bind (execute_routine environment _ _) fun answer => ?_
    split
    · exact ask_calls environment.editor rfl
    · exact tell_calls rfl

theorem startPreview_routine (launch : Preview.Launch) :
    Leads Routine (startPreview environment launch) := by
  refine .bind (execute_routine environment _ _) fun answer => ?_
  split
  · exact .pure _
  · split
    · exact .pure _
    · exact fail_leads _

theorem scrollPreview_routine (task : String) (scroll : Preview.Scroll) :
    Leads Routine (scrollPreview environment task scroll) :=
  .bind (execute_routine environment _ _) fun _ => .pure _

theorem previewPath_routine : Leads Routine (previewPath environment) := by
  refine .bind .get fun session => ?_
  split
  · exact .pure _
  · exact activePath_routine environment

theorem onEnter_routine (uri : Uri) (position : Position) :
    Leads Routine (onEnter environment uri position) := by
  refine .bind .get fun session => ?_
  split
  · refine overConnection_calls (Connection.request_calls environment.peer ?_)
    intro request timeout named
    simp [Call.isRoutine, named]
  · exact .pure _

theorem choose_routine (title : String) (label : α → String) (choices : List α) :
    Leads Routine (choose environment title label choices) := by
  refine .bind (tell_calls rfl) fun _ => .bind .get fun session => ?_
  split
  · exact .pure _
  · split
    · exact .pure _
    · exact fail_leads _

/-- Announcing a main file is routine. -/
theorem applyFocus_routine (effect : FocusEffect) :
    Leads Routine (applyFocus environment effect) := by
  refine .bind (tell_calls rfl) fun _ => ignoring_leads (overConnection_calls ?_)
  refine Connection.request_calls environment.peer ?_
  intro request timeout named
  simp [Call.isRoutine, named]

theorem applyFocus?_routine (effect : Option FocusEffect) :
    Leads Routine (applyFocus? environment effect) := by
  cases effect with
  | some effect => exact applyFocus_routine environment effect
  | none => exact .pure _

/-- Replying to the server is routine. -/
theorem handleRequest_routine (request : Rpc.Request) :
    Leads Routine (handleRequest environment request) :=
  .bind .get fun _ => ignoring_leads
    (overConnection_calls (Connection.reply_calls environment.peer rfl))

/-- Announcing an event of the editor is routine. -/
theorem forward_routine (primary : String) (event : EditorEvent) :
    Leads Routine (overConnection (DocumentSync.forward environment.peer primary event)) := by
  refine overConnection_calls (Connection.forward_calls environment.peer ?_)
  intro notification announced
  obtain method | method | method := DocumentSync.announcement?_method announced <;>
    simp [Call.isRoutine, method]

/-- Events are taken from their queues, and nothing else changes. -/
def Fetches (before after : Session) : Prop :=
  after = { before with source := after.source, arrivals := after.arrivals }

instance : IsPreorder Session Fetches where
  refl := fun _ => rfl
  trans := by
    intro first second third firstFrame secondFrame
    rw [Fetches, secondFrame, firstFrame]

/-- Taking the next event of the transport takes it from its queue. -/
theorem nextArrival_fetches : Leads Fetches nextArrival := by
  refine .get_bind fun session => ?_
  split
  · exact Leads.set_bind rfl (.pure _)
  · exact refl_of Fetches session

/-- Taking the next event takes it from one of the queues. -/
theorem next_fetches : Leads Fetches next := by
  refine .get_bind fun session => ?_
  split
  · exact refl_of Fetches session
  · dsimp only
    split
    · exact refl_of Fetches session
    · split
      · exact Leads.set_bind rfl (.pure _)
      · exact nextArrival_fetches session
      · exact refl_of Fetches session
      · exact refl_of Fetches session

end Session

end LanguageClient
