import LanguageClient.Proofs.KeyedLists
import LanguageClient.Proofs.SessionLaws

/-!
# The account of previews

A task is disposed by the user, by the server, by a stop or by a start that fails, and only then
its preview is closed. The law that survives all of them is an account for every identifier: the
times its preview was closed and the times it is live make up the times it was opened. Everything
but a launch keeps the account without opening anything. A stop of a running session and a start
that fails leave no task live.
-/

namespace LanguageClient

namespace Trace

/-- How often a preview was closed. -/
def closes (trace : Trace) (id : String) : Nat := trace.count (.editor (.closePreview id))

/-- Whether a call opens a preview of a task. -/
def opensPreview (id : String) : Call → Bool
  | .editor (.openPreview task _) => task == id
  | _ => false

/-- How often a preview was opened. -/
def opens (trace : Trace) (id : String) : Nat := trace.countP (opensPreview id)

/-- Calls that do not concern previews leave both counts as they are. -/
theorem Grows.previews {before after : Trace}
    (grows : Trace.Grows (fun call => call.isPreview = false) before after) (id : String) :
    closes after id = closes before id ∧ opens after id = opens before id := by
  obtain ⟨calls, rfl, silent⟩ := grows
  have uncounted : calls.count (.editor (.closePreview id)) = 0 := by
    rw [List.count_eq_zero]
    intro member
    exact absurd (silent _ member) (by simp [Call.isPreview])
  have unopened : calls.countP (opensPreview id) = 0 := by
    rw [List.countP_eq_zero]
    intro call member opened
    have hushed := silent call member
    unfold opensPreview at opened
    split at opened
    · simp [Call.isPreview] at hushed
    · exact absurd opened (by simp)
  constructor
  · rw [closes, closes, List.count_append, uncounted, Nat.add_zero]
  · rw [opens, opens, List.countP_append, unopened, Nat.add_zero]

/-- Closing previews is counted and opens none. -/
theorem closing_counted (trace : Trace) (closed : List String) (id : String) :
    closes (trace ++ closed.map fun task => .editor (.closePreview task)) id =
        closes trace id + closed.count id ∧
      opens (trace ++ closed.map fun task => .editor (.closePreview task)) id = opens trace id := by
  have same : ((fun call => call == Call.editor (.closePreview id)) ∘
      fun task => Call.editor (.closePreview task)) = (· == id) := by
    funext task
    rw [Bool.eq_iff_iff]
    simp
  constructor
  · rw [closes, List.count_append, List.count, List.countP_map, same]
    rfl
  · rw [opens, List.countP_append, List.countP_map]
    simp [opensPreview, Function.comp_def, opens]

end Trace

namespace Session

/-- The account of previews: live tasks differ and each is torn down by closing its preview; what
was opened was drawn, was opened once, and is closed or live. -/
structure Balanced (session : Session) : Prop where
  apart : session.tasks.ids.Nodup
  teardowns : ∀ entry ∈ session.tasks.tasks, entry.2 = .closePreview entry.1
  drawn : ∀ id, 0 < session.trace.opens id → id ∈ session.drawn
  once : ∀ id, session.trace.opens id ≤ 1
  balance : ∀ id, session.trace.closes id + session.tasks.ids.count id = session.trace.opens id

/-- No preview is opened and no identifier drawn, and the account stays balanced. -/
def Keeps (before after : Session) : Prop :=
  after.drawn = before.drawn ∧
    (Balanced before → Balanced after ∧ ∀ id, after.trace.opens id = before.trace.opens id)

instance : IsPreorder Session Keeps where
  refl := fun _ => ⟨rfl, fun balanced => ⟨balanced, fun _ => rfl⟩⟩
  trans := by
    rintro first second third ⟨firstDrawn, firstKept⟩ ⟨secondDrawn, secondKept⟩
    refine ⟨secondDrawn.trans firstDrawn, fun balanced => ?_⟩
    obtain ⟨middle, firstOpens⟩ := firstKept balanced
    obtain ⟨last, secondOpens⟩ := secondKept middle
    exact ⟨last, fun id => (secondOpens id).trans (firstOpens id)⟩

/-- Nothing happens to previews: tasks and drawn identifiers stay, and no call concerns previews. -/
structure Quiet (before after : Session) : Prop where
  tasks : after.tasks = before.tasks
  drawn : after.drawn = before.drawn
  grows : Trace.Grows (fun call => call.isPreview = false) before.trace after.trace

instance : IsPreorder Session Quiet where
  refl := fun session => ⟨rfl, rfl, refl_of (Trace.Grows _) session.trace⟩
  trans := fun _ _ _ first second =>
    ⟨second.tasks.trans first.tasks, second.drawn.trans first.drawn,
      trans_of (Trace.Grows _) first.grows second.grows⟩

/-- Where nothing happens to previews, the account stays balanced. -/
theorem Quiet.keeps {before after : Session} (quiet : Quiet before after) : Keeps before after := by
  have counts := quiet.grows.previews
  refine ⟨quiet.drawn, fun balanced => ⟨?_, fun id => (counts id).2⟩⟩
  refine ⟨quiet.tasks ▸ balanced.apart, quiet.tasks ▸ balanced.teardowns, ?_, ?_, ?_⟩
  · intro id opened
    rw [(counts id).2] at opened
    exact quiet.drawn ▸ balanced.drawn id opened
  · intro id
    rw [(counts id).2]
    exact balanced.once id
  · intro id
    rw [(counts id).1, (counts id).2, quiet.tasks]
    exact balanced.balance id

/-- A change of what is neither task, identifier nor call does nothing to previews. -/
theorem Quiet.frame {before after : Session} (tasks : after.tasks = before.tasks)
    (drawn : after.drawn = before.drawn) (connection : after.connection = before.connection) :
    Quiet before after :=
  ⟨tasks, drawn, by
    rw [trace, trace, connection]
    exact refl_of (Trace.Grows _) _⟩

/-- Routine calls do nothing to previews. -/
theorem Quiet.routine {before after : Session} (calls : Routine before after) :
    Quiet before after := by
  obtain ⟨frame, grows⟩ := calls
  exact ⟨by rw [frame], by rw [frame], grows.mono fun _ => Call.isPreview_of_isRoutine⟩

/-- An action of routine calls does nothing to previews. -/
theorem quiet_of_routine {α : Type} {action : Action α} (routine : Leads Routine action) :
    Leads Quiet action :=
  routine.mono fun _ _ => Quiet.routine

/-- Tasks that are taken out and whose previews are closed move from one side of the account to
the other. -/
theorem Balanced.shed {before after : Session} (balanced : Balanced before) (closed : List String)
    (drawn : after.drawn = before.drawn) (kept : after.tasks.tasks.Sublist before.tasks.tasks)
    (split : before.tasks.ids.Perm (closed ++ after.tasks.ids))
    (trace : after.trace = before.trace ++ closed.map fun task => .editor (.closePreview task)) :
    Balanced after ∧ ∀ id, after.trace.opens id = before.trace.opens id := by
  have counted (id : String) := Trace.closing_counted before.trace closed id
  rw [← trace] at counted
  refine ⟨⟨?_, ?_, ?_, ?_, ?_⟩, fun id => (counted id).2⟩
  · exact balanced.apart.sublist (kept.map Prod.fst)
  · exact fun entry member => balanced.teardowns entry (kept.subset member)
  · intro id opened
    rw [(counted id).2] at opened
    exact drawn ▸ balanced.drawn id opened
  · intro id
    rw [(counted id).2]
    exact balanced.once id
  · intro id
    have shares : before.tasks.ids.count id = closed.count id + after.tasks.ids.count id := by
      rw [split.count_eq, List.count_append]
    have account := balanced.balance id
    rw [(counted id).1, (counted id).2]
    omega

/-- Disposing a task keeps the account: a live task is taken out and its preview closed. -/
theorem disposeTask_keeps (id : String) : Leads Keeps (disposeTask id) := by
  intro session
  rw [run_disposeTask]
  refine ⟨rfl, fun balanced => ?_⟩
  have taken := (perm_without balanced.apart id).map Prod.fst
  refine balanced.shed ((session.tasks.tasks.lookup id).toList.map fun _ => id) rfl
    List.filter_sublist ?_ ?_
  · simpa [TaskRegistry.ids, TaskRegistry.dispose, Function.comp_def] using taken
  · cases found : session.tasks.tasks.lookup id with
    | none => simp [trace, TaskRegistry.dispose, found]
    | some teardown =>
      have own := balanced.teardowns _ (mem_of_lookup found)
      simp only at own
      simp [trace, TaskRegistry.dispose, found, own]

/-- Disposing all tasks keeps the account: all are taken out and their previews closed. -/
theorem disposeTasks_keeps : Leads Keeps disposeTasks := by
  intro session
  rw [run_disposeTasks]
  refine ⟨rfl, fun balanced => ?_⟩
  refine balanced.shed session.tasks.ids rfl (List.nil_sublist _) ?_ ?_
  · simp [TaskRegistry.ids, TaskRegistry.empty]
  · simp only [trace, TaskRegistry.ids, List.map_map]
    congr 1
    refine List.map_congr_left fun entry member => ?_
    simp [balanced.teardowns entry member]

/-- What does nothing to tasks, identifiers and previews is mechanical. -/
theorem quiet_mechanical : Mechanical Quiet where
  arranges := fun _ _ arranged => .frame arranged.tasks arranged.drawn arranged.connection
  traffic := fun _ _ calls => ⟨by rw [calls.1], by rw [calls.1], calls.2⟩

/-- All that a session does apart from launching a preview keeps the account. -/
theorem keeps_lawful : Lawful Keeps where
  routine := fun _ _ calls => (Quiet.routine calls).keeps
  focus := fun environment effect focus session => by
    have announced := applyFocus_routine environment effect { session with focus := focus }
    have moved : Quiet session { session with focus := focus } := .frame rfl rfl rfl
    exact (trans_of Quiet moved (.routine announced)).keeps
  dispose := disposeTask_keeps
  fetches := fun _ _ fetched =>
    (Quiet.frame (by rw [fetched]) (by rw [fetched]) (by rw [fetched])).keeps
  arranges := fun _ _ arranged => (quiet_mechanical.arranges _ _ arranged).keeps
  traffic := fun _ _ calls => (quiet_mechanical.traffic _ _ calls).keeps
  disposeAll := disposeTasks_keeps

variable (environment : Environment)

/-- No task is live any more. -/
def Emptied (_ after : Session) : Prop := after.tasks = .empty

/-- After a start was undone no task is live. -/
theorem abandon_emptied : Leads Emptied (abandon environment) := by
  intro session
  let halted := { session with lifecycle := .stopped }
  change ((disposeTasks >>= fun _ => _).run halted).2.tasks = .empty
  rw [run_bind_ok (run_disposeTasks halted)]
  exact (quiet_mechanical.abandonRest environment session.isRunning _).tasks

/-- Of a session that was running no task is live any more. -/
def Shuts (before after : Session) : Prop := before.isRunning = true → after.tasks = .empty

/-- After a running session was stopped no task is live. -/
theorem stop_shuts : Leads Shuts (stop environment) := by
  intro session running
  let halted := { session with lifecycle := .stopped }
  change ((if session.isRunning = true then _ else _ : Action Unit).run session).2.tasks = .empty
  rw [if_pos running]
  change ((disposeTasks >>= fun _ => _).run halted).2.tasks = .empty
  rw [run_bind_ok (run_disposeTasks halted)]
  exact (quiet_mechanical.stopRest environment _).tasks

/-- What is done over the connection does not overflow. -/
theorem overConnection_avoids {α : Type} (action : Connection.Action α) :
    Avoids .overflow (overConnection action) := by
  intro session
  rw [run_overConnection]
  obtain ⟨result, connection⟩ := action.run session.connection
  cases result with
  | ok value => nofun
  | error cause => nofun

/-- Keeping a failure as a value makes no overflow. -/
theorem attempt_avoids {α : Type} {action : Action α} (avoids : Avoids .overflow action) :
    Avoids .overflow (attempt action) := by
  intro session
  have avoided := avoids session
  rw [run_attempt]
  cases outcome : action.run session with
  | mk result after =>
    rw [outcome] at avoided
    cases result with
    | ok value => nofun
    | error halt =>
      cases halt with
      | failed error => nofun
      | overflow => exact absurd rfl avoided

/-- Announcing a main file does not overflow. -/
theorem applyFocus_avoids (effect : FocusEffect) :
    Avoids .overflow (applyFocus environment effect) :=
  .bind (.modify _) fun _ => .bind (attempt_avoids (overConnection_avoids _)) fun _ => .pure _

/-- The steps of a start do not overflow. -/
theorem bringUp_avoids : Avoids .overflow (bringUp environment) := by
  refine .bind (.modify _) fun _ => .bind .get fun session => ?_
  split
  · exact .throw (by simp)
  · refine .bind ?_ fun _ => .bind (overConnection_avoids _) fun _ => .bind (.modify _) fun _ => ?_
    · refine .bind (overConnection_avoids _) fun _ => .bind (.modify _) fun _ => ?_
      exact .bind .get fun _ => .bind (overConnection_avoids _) fun _ => .modify _
    · refine .bind .get fun _ => .bind (overConnection_avoids _) fun _ => .bind .get fun _ => ?_
      exact .bind (.set _) fun _ => applyFocus_avoids environment _

/-- After a start that found the session idle and failed no task is live. -/
theorem start_emptied {session after : Session} {halt : Halt} (idle : session.lifecycle = .idle)
    (failed : (start environment).run session = (.error halt, after)) : Emptied session after := by
  rw [run_start, if_pos idle, bringUpOrAbandon] at failed
  cases outcome : (bringUp environment).run session with
  | mk result reached =>
    have attempted := run_attempt (bringUp environment) session
    rw [outcome] at attempted
    cases result with
    | ok done =>
      rw [run_bind_ok attempted] at failed
      cases failed
    | error cause =>
      cases cause with
      | overflow => exact absurd (congrArg Prod.fst outcome) (bringUp_avoids environment session)
      | failed error =>
        rw [run_bind_ok attempted] at failed
        have undone : Leads Emptied (do
            abandon environment
            tell (.showError ("Failed to start tinymist: " ++ error.message))
            fail error : Action Unit) :=
          .bind_comp (abandon_emptied environment)
            (fun _ => .bind (quiet_of_routine (tell_calls rfl)) fun _ => fail_leads error)
            (fun emptied quiet => quiet.tasks.trans emptied) id
        have emptied := undone reached
        rw [failed] at emptied
        exact emptied

/-- A running session goes on running, or no task of it is live any more. -/
def Winds (before after : Session) : Prop :=
  before.isRunning = true → after.isRunning = true ∨ after.tasks = .empty

/-- A session that stays as far as it got goes on running if it did. -/
theorem Stays.running {before after : Session} (stays : Stays before after)
    (running : before.isRunning = true) : after.isRunning = true := by
  rw [isRunning, stays]
  exact running

/-- After any number of turns a running session is still running or has no live task. -/
theorem turns_winds (count : Nat) : Leads Winds (turns environment count) := by
  induction count with
  | zero => exact fun _ running => .inl running
  | succ count inductionHypothesis =>
    refine .bind_comp (stays_ordinary.turn environment) (fun pace => ?_)
      (fun stays (winds : Winds _ _) running => winds (stays.running running))
      (fun stays running => .inl (stays.running running))
    cases pace with
    | proceed => exact inductionHypothesis
    | wait => exact fun _ running => .inl running
    | finish =>
      have stopped : Leads Winds (stop environment) := fun session running =>
        .inr (stop_shuts environment session running)
      exact stopped.bind_pure _

end Session

end LanguageClient
