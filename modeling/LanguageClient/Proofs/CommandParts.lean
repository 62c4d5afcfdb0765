import LanguageClient.Proofs.KeyedLists
import LanguageClient.Proofs.StartUpTraffic

/-!
# The parts of a command

A command has three parts. First it prepares: it looks for a document and puts its questions to the
user, and it may end there. Then it contacts the server with one request. At last it finishes: it
registers or disposes a task and calls the editor, without further questions.

What consists of such parts in this order is courteous: it sends at most one message, and only when
nothing can be cancelled any more; it fails for different causes in each part; and it touches the
tasks at last.
-/

namespace LanguageClient

namespace Editor

variable (editor : Editor)

/-- Whether the user dismissed the question of a call, the last of the calls so far. -/
def dismissed (trace : Trace) : Call → Bool
  | .editor .promptTemplate => (editor.template trace).isNone
  | .editor .pickFolder => (editor.folder trace).isNone
  | .editor (.pick _ _) => (editor.picked trace).isNone
  | _ => false

/-- Whether the user dismissed a question among calls that follow a trace. -/
def dismissedAmong (trace : Trace) : List Call → Bool
  | [] => false
  | call :: calls =>
    editor.dismissed (trace ++ [call]) call || dismissedAmong (trace ++ [call]) calls

/-- A question is dismissed among earlier or among later calls. -/
theorem dismissedAmong_append (trace : Trace) (early late : List Call) :
    editor.dismissedAmong trace (early ++ late) =
      (editor.dismissedAmong trace early || editor.dismissedAmong (trace ++ early) late) := by
  induction early generalizing trace with
  | nil => simp [dismissedAmong]
  | cons call early inductionHypothesis =>
    simp [dismissedAmong, inductionHypothesis, Bool.or_assoc]

end Editor

/-- Whether a call tells the editor something and asks the user nothing. -/
def Call.isRemark : Call → Bool
  | .editor .promptTemplate | .editor .pickFolder | .editor (.pick _ _) => false
  | .editor _ => true
  | .request _ _ | .notification _ | .reply _ _ | .start _ | .stop => false

section Remarks

variable {calls : List Call} (remarks : ∀ call ∈ calls, call.isRemark = true)

include remarks

/-- Remarks go to the editor. -/
theorem Trace.messages_remarks : Trace.messages calls = [] := by
  refine List.filter_eq_nil_iff.mpr fun call inside sent => ?_
  have remark := remarks call inside
  cases call with
  | editor call => cases sent
  | _ => cases remark

/-- Remarks cannot be dismissed. -/
theorem Editor.dismissedAmong_remarks (editor : Editor) (trace : Trace) :
    editor.dismissedAmong trace calls = false := by
  induction calls generalizing trace with
  | nil => rfl
  | cons call calls inductionHypothesis =>
    have first : editor.dismissed (trace ++ [call]) call = false := by
      have remark := remarks call List.mem_cons_self
      unfold Editor.dismissed
      split
      · cases remark
      · cases remark
      · cases remark
      · rfl
    rw [Editor.dismissedAmong, first, Bool.false_or]
    exact inductionHypothesis (fun call inside => remarks call (List.mem_cons_of_mem _ inside)) _

end Remarks

namespace ClientError

/-- The causes for which a command fails before it contacts the server. -/
def isEarly : ClientError → Bool
  | .noActiveDocument | .cancelled | .unknownCodeLens _ => true
  | _ => false

/-- The causes for which a command fails after the server has answered. -/
def isLate : ClientError → Bool
  | .duplicateTask _ | .editor _ => true
  | _ => false

/-- No early cause is a late one. -/
theorem isLate_of_isEarly {error : ClientError} (early : error.isEarly = true) :
    error.isLate = false := by
  cases error with
  | duplicateTask duplicate => cases early
  | editor reason => cases early
  | _ => rfl

end ClientError

namespace Session

/-- Nothing but the connection, the live tasks and the drawn identifiers may change: lifecycle,
focus, settings and subscriptions stay, with everything else. -/
def Spares (before after : Session) : Prop :=
  after = { before with
    connection := after.connection, tasks := after.tasks, drawn := after.drawn }

instance : IsPreorder Session Spares where
  refl := fun _ => rfl
  trans := by
    intro first second third firstSpares secondSpares
    rw [Spares, secondSpares, firstSpares]

variable {α β : Type} (environment : Environment)

/-- What a command promises of its outcome, given the calls that it makes. -/
structure Courteous (session : Session) (outcome : Except Halt α × Session)
    (calls : List Call) : Prop where
  trace : outcome.2.trace = session.trace ++ calls
  /-- At most one message is sent, and it is a request. -/
  once : Trace.messages calls = [] ∨
    ∃ request timeout, Trace.messages calls = [.request request timeout]
  early : ∀ error, outcome.1 = .error (.failed error) → error.isEarly = true →
    Trace.messages calls = []
  dismissed : environment.editor.dismissedAmong session.trace calls = true →
    Trace.messages calls = []
  spares : Spares session outcome.2
  tasks : ∀ cause, outcome.1 = .error (.failed (.transport cause)) →
    outcome.2.tasks = session.tasks

/-- Why a command need not contact the server: it fails for an early cause, a question is dismissed,
or no document is active when one is looked for. -/
inductive Excused (session : Session) (result : Except Halt α) (calls : List Call) : Prop where
  | failed {error : ClientError} (early : error.isEarly = true)
      (failed : result = .error (.failed error))
  | dismissed (dismissed : environment.editor.dismissedAmong session.trace calls = true)
  | inactive {front : List Call} (part : front <+: calls)
      (missing : environment.editor.active (session.trace ++ front) = none)

/-- How a command goes: it is courteous, it contacts the server unless it is excused,
and it leaves the session tidy. -/
structure Conduct (session : Session) (outcome : Except Halt α × Session) (calls : List Call) : Prop
    extends Courteous environment session outcome calls where
  excused : Trace.messages calls = [] → Excused environment session outcome.1 calls
  tidy : Tidy outcome.2

/-- An action goes like this from every tidy session. -/
def Conducts (action : Action α) : Prop :=
  ∀ session, Tidy session → ∃ calls, Conduct environment session (action.run session) calls

/-- Calls are made, and the tasks are not touched. -/
structure Proceeds (before after : Session) (calls : List Call) : Prop where
  trace : after.trace = before.trace ++ calls
  spares : Spares before after
  tasks : after.tasks = before.tasks

/-- Nothing is done. -/
theorem Proceeds.still (session : Session) : Proceeds session session [] :=
  ⟨(List.append_nil _).symm, rfl, rfl⟩

/-- One call to the editor or to the server. -/
theorem Proceeds.one {before : Session} {connection : Connection} {call : Call}
    (recorded : connection.trace = before.trace ++ [call]) :
    Proceeds before { before with connection := connection } [call] :=
  ⟨recorded, rfl, rfl⟩

/-- A preparation sends no message, and fails for an early cause. Of the values that it yields, some
are to proceed with: those for which no question was dismissed. -/
def Prepares (proceeds : α → Bool) (action : Action α) : Prop :=
  ∀ session, ∃ calls, Proceeds session (action.run session).2 calls ∧ Trace.messages calls = [] ∧
    match (action.run session).1 with
    | .ok value => environment.editor.dismissedAmong session.trace calls = !proceeds value
    | .error halt => ∃ error, halt = .failed error ∧ error.isEarly = true

/-- A contact is one request, and fails with a failure of the transport. -/
def Contacts (action : Action α) : Prop :=
  ∀ session, ∃ request timeout,
    Proceeds session (action.run session).2 [.request request timeout] ∧
      ∀ halt, (action.run session).1 = .error halt → ∃ cause, halt = .failed (.transport cause)

/-- In a tidy session remarks are made, and it stays tidy. -/
def Remarks (before after : Session) : Prop :=
  Tidy before → Tidy after ∧ Spares before after ∧
    Trace.Grows (fun call => call.isRemark = true) before.trace after.trace

instance : IsPreorder Session Remarks where
  refl := fun session tidy => ⟨tidy, rfl, refl_of (Trace.Grows _) session.trace⟩
  trans := by
    intro first second third firstRemarks secondRemarks tidy
    obtain ⟨middle, firstSpares, firstGrows⟩ := firstRemarks tidy
    obtain ⟨last, secondSpares, secondGrows⟩ := secondRemarks middle
    exact ⟨last, trans_of Spares firstSpares secondSpares,
      trans_of (Trace.Grows _) firstGrows secondGrows⟩

/-- What finishes a command makes remarks, and fails for late causes only. -/
structure Finishes (action : Action α) : Prop where
  leads : Leads Remarks action
  late : ∀ error, error.isLate = false → Avoids (.failed error) action

section Parts

variable {environment}

/-- A preparation that fails, or whose value is not to proceed with, is all there is. -/
theorem Proceeds.conduct {session after : Session} {calls : List Call} {result : Except Halt α}
    (proceeds : Proceeds session after calls) (unsent : Trace.messages calls = [])
    (tidy : Tidy session) (excused : Excused environment session result calls) :
    Conduct environment session (result, after) calls where
  trace := proceeds.trace
  once := .inl unsent
  early := fun _ _ _ => unsent
  dismissed := fun _ => unsent
  spares := proceeds.spares
  tasks := fun _ _ => proceeds.tasks
  excused := fun _ => excused
  tidy := StaysTidy.of_tasks proceeds.tasks tidy

/-- What excuses the rest of a command excuses the whole of it. -/
theorem Excused.preceded {session middle : Session} {result : Except Halt α}
    {early late : List Call} (trace : middle.trace = session.trace ++ early)
    (excused : Excused environment middle result late) :
    Excused environment session result (early ++ late) := by
  cases excused with
  | failed early failed => exact .failed early failed
  | dismissed dismissed =>
    refine .dismissed ?_
    rw [Editor.dismissedAmong_append, ← trace, dismissed, Bool.or_true]
  | @inactive front part missing =>
    refine .inactive ((List.prefix_append_right_inj early).mpr part) ?_
    rwa [← List.append_assoc, ← trace]

/-- What follows a preparation in which nothing was dismissed. -/
theorem Conduct.preceded {session middle : Session} {outcome : Except Halt α × Session}
    {early late : List Call} (prepared : Proceeds session middle early)
    (unsent : Trace.messages early = [])
    (answered : environment.editor.dismissedAmong session.trace early = false)
    (conduct : Conduct environment middle outcome late) :
    Conduct environment session outcome (early ++ late) := by
  have messages : Trace.messages (early ++ late) = Trace.messages late := by
    rw [Trace.messages_append, unsent, List.nil_append]
  have dismissals : environment.editor.dismissedAmong session.trace (early ++ late) =
      environment.editor.dismissedAmong middle.trace late := by
    rw [Editor.dismissedAmong_append, answered, Bool.false_or, prepared.trace]
  refine ⟨⟨?_, ?_, ?_, ?_, ?_, ?_⟩, ?_, conduct.tidy⟩
  · rw [conduct.trace, prepared.trace, List.append_assoc]
  · rw [messages]
    exact conduct.once
  · rw [messages]
    exact conduct.early
  · rw [messages, dismissals]
    exact conduct.dismissed
  · exact trans_of Spares prepared.spares conduct.spares
  · intro cause failed
    exact (conduct.tasks cause failed).trans prepared.tasks
  · rw [messages]
    exact fun silent => (conduct.excused silent).preceded prepared.trace

/-- A preparation, and what is done with the values that are to proceed with. With other values
nothing is done. -/
theorem Prepares.bind {proceeds : α → Bool} {action : Action α} {next : α → Action β}
    (prepares : Prepares environment proceeds action)
    (going : ∀ value, proceeds value = true → Conducts environment (next value))
    (idle : ∀ value, proceeds value = false → Leads Eq (next value)) :
    Conducts environment (action >>= next) := by
  intro session tidy
  obtain ⟨early, prepared, unsent, ends⟩ := prepares session
  cases outcome : action.run session with
  | mk result middle =>
    rw [outcome] at prepared ends
    cases result with
    | error halt =>
      obtain ⟨error, rfl, early⟩ := ends
      rw [run_bind_error outcome]
      exact ⟨_, prepared.conduct unsent tidy (.failed early rfl)⟩
    | ok value =>
      dsimp only at prepared ends
      rw [run_bind_ok outcome]
      cases chosen : proceeds value with
      | false =>
        have still : middle = ((next value).run middle).2 := idle value chosen middle
        rw [chosen] at ends
        rw [still] at prepared
        exact ⟨_, prepared.conduct unsent tidy (.dismissed ends)⟩
      | true =>
        rw [chosen] at ends
        obtain ⟨late, conduct⟩ :=
          going value chosen middle (StaysTidy.of_tasks prepared.tasks tidy)
        exact ⟨early ++ late, conduct.preceded prepared unsent ends⟩

/-- A preparation whose values are all to proceed with. -/
theorem Prepares.bind_all {action : Action α} {next : α → Action β}
    (prepares : Prepares environment (fun _ => true) action)
    (going : ∀ value, Conducts environment (next value)) :
    Conducts environment (action >>= next) :=
  prepares.bind (fun value _ => going value) nofun

/-- A contact by itself. -/
theorem Contacts.conducts {action : Action α} (contacts : Contacts action) :
    Conducts environment action := by
  intro session tidy
  obtain ⟨request, timeout, proceeds, fails⟩ := contacts session
  refine ⟨[.request request timeout], ⟨proceeds.trace, .inr ⟨request, timeout, rfl⟩, ?_, nofun,
    proceeds.spares, fun _ _ => proceeds.tasks⟩, nofun, StaysTidy.of_tasks proceeds.tasks tidy⟩
  intro error failed early
  obtain ⟨cause, same⟩ := fails _ failed
  obtain ⟨⟩ := same
  cases early

/-- An early failure is all there is. -/
theorem Conducts.fail {error : ClientError} (early : error.isEarly = true) :
    Conducts environment (fail error : Action α) :=
  fun session tidy => ⟨[], (Proceeds.still session).conduct rfl tidy (.failed early rfl)⟩

/-- Nothing is done without a document. -/
theorem Conducts.inactive (value : α) {session : Session} (tidy : Tidy session)
    (missing : environment.editor.active session.trace = none) :
    ∃ calls, Conduct environment session ((pure value : Action α).run session) calls := by
  refine ⟨[], (Proceeds.still session).conduct rfl tidy (.inactive List.nil_prefix ?_)⟩
  rwa [List.append_nil]

/-- Remarks at the end: the server is not contacted again, and what fails now is no failure of
the transport. -/
theorem Conduct.followed {session middle : Session} {value : α} {outcome : Except Halt β × Session}
    {early late : List Call} (conduct : Conduct environment session (.ok value, middle) early)
    (remarks : ∀ call ∈ late, call.isRemark = true)
    (trace : outcome.2.trace = middle.trace ++ late) (spares : Spares middle outcome.2)
    (tidy : Tidy outcome.2)
    (fails : ∀ error, error.isLate = false → outcome.1 ≠ .error (.failed error)) :
    Conduct environment session outcome (early ++ late) := by
  have messages : Trace.messages (early ++ late) = Trace.messages early := by
    rw [Trace.messages_append, Trace.messages_remarks remarks, List.append_nil]
  have dismissals : environment.editor.dismissedAmong session.trace (early ++ late) =
      environment.editor.dismissedAmong session.trace early := by
    rw [Editor.dismissedAmong_append, Editor.dismissedAmong_remarks remarks, Bool.or_false]
  refine ⟨⟨?_, ?_, ?_, ?_, ?_, ?_⟩, ?_, tidy⟩
  · rw [trace, conduct.trace, List.append_assoc]
  · rw [messages]
    exact conduct.once
  · intro error failed early
    exact absurd failed (fails error (ClientError.isLate_of_isEarly early))
  · rw [messages, dismissals]
    exact conduct.dismissed
  · exact trans_of Spares conduct.spares spares
  · intro cause failed
    exact absurd failed (fails (.transport cause) rfl)
  · rw [messages]
    intro silent
    cases conduct.excused silent with
    | failed early failed => cases failed
    | dismissed dismissed =>
      refine .dismissed ?_
      rw [dismissals]
      exact dismissed
    | inactive part missing => exact .inactive (part.trans (List.prefix_append _ _)) missing

/-- How something fails does not depend on what it would have yielded. -/
theorem Conduct.unyielded {session after : Session} {halt : Halt} {calls : List Call}
    (conduct : Conduct environment session ((.error halt, after) : Except Halt α × Session) calls) :
    Conduct environment session ((.error halt, after) : Except Halt β × Session) calls where
  trace := conduct.trace
  once := conduct.once
  early := fun error failed => conduct.early error (congrArg Except.error (Except.error.inj failed))
  dismissed := conduct.dismissed
  spares := conduct.spares
  tasks := fun cause failed => conduct.tasks cause (congrArg Except.error (Except.error.inj failed))
  excused := by
    intro silent
    cases conduct.excused silent with
    | failed early failed =>
      exact .failed early (congrArg Except.error (Except.error.inj failed))
    | dismissed dismissed => exact .dismissed dismissed
    | inactive part missing => exact .inactive part missing
  tidy := conduct.tidy

/-- What has gone well is finished. -/
theorem Conducts.bind {action : Action α} {next : α → Action β}
    (conducts : Conducts environment action) (finishes : ∀ value, Finishes (next value)) :
    Conducts environment (action >>= next) := by
  intro session tidy
  obtain ⟨early, conduct⟩ := conducts session tidy
  cases outcome : action.run session with
  | mk result middle =>
    rw [outcome] at conduct
    cases result with
    | error halt =>
      rw [run_bind_error outcome]
      exact ⟨early, conduct.unyielded⟩
    | ok value =>
      rw [run_bind_ok outcome]
      obtain ⟨last, spares, late, trace, remarks⟩ := (finishes value).leads middle conduct.tidy
      refine ⟨early ++ late, conduct.followed remarks trace spares last fun error unlike => ?_⟩
      exact (finishes value).late error unlike middle

namespace Finishes

/-- Nothing more is done. -/
theorem pure (value : α) : Finishes (pure value : Action α) := ⟨.pure value, fun _ _ => .pure value⟩

/-- One thing after another. -/
theorem bind {action : Action α} {next : α → Action β} (first : Finishes action)
    (rest : ∀ value, Finishes (next value)) : Finishes (action >>= next) where
  leads := .bind first.leads fun value => (rest value).leads
  late := fun error unlike => .bind (first.late error unlike) fun value =>
    (rest value).late error unlike

/-- A remark. -/
theorem tell {call : EditorCall} (remark : Call.isRemark (.editor call) = true) :
    Finishes (tell call) where
  leads := .modify fun session tidy => ⟨tidy, rfl, .snoc session.trace remark⟩
  late := fun _ _ => .modify _

/-- A remark that can fail. -/
theorem ask (editor : Editor) {call : EditorCall} (remark : Call.isRemark (.editor call) = true) :
    Finishes (ask editor call) where
  leads := by
    intro session tidy
    rw [run_ask]
    exact ⟨tidy, rfl, .snoc session.trace remark⟩
  late := by
    intro error unlike session
    rw [run_ask]
    cases editor.outcome (session.trace ++ [.editor call]) with
    | ok done => exact nofun
    | error reason =>
      rintro ⟨⟩
      cases unlike

/-- The teardown of a task in a tidy session is a remark. -/
theorem disposeTask (task : String) : Finishes (disposeTask task) where
  leads := by
    intro session tidy
    have after := staysTidy_lawful.dispose task session tidy
    rw [run_disposeTask] at after ⊢
    refine ⟨after, rfl, _, rfl, fun call inside => ?_⟩
    simp only [List.mem_map, Option.mem_toList] at inside
    obtain ⟨teardown, found, rfl⟩ := inside
    have closes : teardown = .closePreview task :=
      tidy (task, teardown) (mem_of_lookup found)
    rw [closes]
    rfl
  late := by
    intro error unlike session
    rw [disposeTask_run]
    exact nofun

/-- A registration makes no call. -/
theorem registerPreview (task : String) : Finishes (registerPreview task) where
  leads := by
    intro session tidy
    refine ⟨registerPreview_staysTidy task session tidy, ?_⟩
    rw [run_registerPreview]
    cases session.tasks.register task (.closePreview task) with
    | ok tasks => exact ⟨rfl, refl_of (Trace.Grows _) session.trace⟩
    | error duplicate => exact ⟨rfl, refl_of (Trace.Grows _) session.trace⟩
  late := by
    intro error unlike session
    rw [run_registerPreview]
    cases session.tasks.register task (.closePreview task) with
    | ok tasks => exact nofun
    | error duplicate =>
      rintro ⟨⟩
      cases unlike

end Finishes

end Parts

end Session

end LanguageClient
