import LanguageClient.Proofs.PreviewAccount
import LanguageClient.Proofs.SessionRuns

/-!
# Milestones of a conversation

Five calls mark how far the conversation with the server got: the launch, the introduction, the
request to shut down, the notification to exit and the stop of the transport. Of all that a session
does only starting and stopping pass any of them. Everything else is uneventful: it leaves the
session as far as it got, and with the subscription that it has.
-/

namespace LanguageClient

/-- A call that marks how far the conversation with the server got. -/
inductive Milestone where
  | launch
  | introduction
  | shutdown
  | exit
  | stop
deriving DecidableEq, Repr

/-- The milestone that a call is. -/
def Call.milestone? : Call → Option Milestone
  | .start _ => some .launch
  | .request call _ =>
    if call.method = "initialize" then some .introduction
    else if call.method = "shutdown" then some .shutdown
    else none
  | .notification notice => if notice.method = "exit" then some .exit else none
  | .stop => some .stop
  | .reply _ _ | .editor _ => none

/-- A routine call is no milestone. -/
theorem Call.milestone?_of_isRoutine {call : Call} (routine : call.isRoutine = true) :
    call.milestone? = none := by
  cases call with
  | request call timeout =>
    simp only [isRoutine, Bool.and_eq_true, bne_iff_ne] at routine
    simp [milestone?, routine]
  | notification notice =>
    simp only [isRoutine, Bool.and_eq_true, bne_iff_ne] at routine
    simp [milestone?, routine]
  | start config => cases routine
  | stop => cases routine
  | _ => rfl

namespace Trace

/-- The milestones among the calls, in order. -/
def milestones (trace : Trace) : List Milestone := trace.filterMap Call.milestone?

/-- Milestones of further calls come after those before. -/
@[simp] theorem milestones_append (first second : Trace) :
    milestones (first ++ second) = milestones first ++ milestones second :=
  List.filterMap_append

/-- The trace grows, and these milestones are passed. -/
def Passes (passed : List Milestone) (before after : Trace) : Prop :=
  ∃ calls, after = before ++ calls ∧ milestones calls = passed

/-- Milestones of one stretch are followed by those of the next. -/
theorem Passes.append {early late : List Milestone} {before middle after : Trace}
    (first : Passes early before middle) (second : Passes late middle after) :
    Passes (early ++ late) before after := by
  obtain ⟨calls, rfl, rfl⟩ := first
  obtain ⟨more, rfl, rfl⟩ := second
  exact ⟨calls ++ more, List.append_assoc _ _ _, milestones_append _ _⟩

/-- The milestones that were passed come after those before. -/
theorem Passes.milestones {passed : List Milestone} {before after : Trace}
    (passes : Passes passed before after) :
    Trace.milestones after = Trace.milestones before ++ passed := by
  obtain ⟨calls, rfl, rfl⟩ := passes
  exact milestones_append _ _

/-- What was called before was called. -/
theorem Passes.isPrefix {passed : List Milestone} {before after : Trace}
    (passes : Passes passed before after) : before <+: after := by
  obtain ⟨calls, rfl, -⟩ := passes
  exact List.prefix_append before calls

/-- Calls that are no milestones pass none. -/
theorem Grows.passes {before after : Trace}
    (grows : Trace.Grows (fun call => call.milestone? = none) before after) :
    Passes [] before after := by
  obtain ⟨calls, rfl, others⟩ := grows
  exact ⟨calls, rfl, List.filterMap_eq_nil_iff.mpr others⟩

end Trace

namespace Session

/-- The session stays as far as it got, and some milestones are passed. -/
structure Passes (passed : List Milestone) (before after : Session) : Prop where
  lifecycle : after.lifecycle = before.lifecycle
  calls : Trace.Passes passed before.trace after.trace

/-- No milestone is passed; lifecycle and subscription stay. -/
structure Uneventful (before after : Session) : Prop extends Passes [] before after where
  subscriptions : after.subscriptions = before.subscriptions
  receiver : after.receiver = before.receiver

/-- A change that concerns neither calls, lifecycle nor subscription. -/
theorem Uneventful.frame {before after : Session} (lifecycle : after.lifecycle = before.lifecycle)
    (connection : after.connection = before.connection)
    (subscriptions : after.subscriptions = before.subscriptions)
    (receiver : after.receiver = before.receiver) : Uneventful before after := by
  refine ⟨⟨lifecycle, [], ?_, rfl⟩, subscriptions, receiver⟩
  rw [trace, trace, connection, List.append_nil]

instance : IsPreorder Session Uneventful where
  refl := fun _ => .frame rfl rfl rfl rfl
  trans := fun _ _ _ first second =>
    ⟨⟨second.lifecycle.trans first.lifecycle, first.calls.append second.calls⟩,
      second.subscriptions.trans first.subscriptions, second.receiver.trans first.receiver⟩

/-- The milestones stay. -/
theorem Uneventful.milestones {before after : Session} (uneventful : Uneventful before after) :
    Trace.milestones after.trace = Trace.milestones before.trace := by
  rw [uneventful.calls.milestones, List.append_nil]

/-- Calls that are no milestones. -/
theorem Uneventful.calls_of {before after : Session}
    (made : Calls (fun call => call.milestone? = none) before after) : Uneventful before after := by
  obtain ⟨frame, grows⟩ := made
  exact ⟨⟨by rw [frame], grows.passes⟩, by rw [frame], by rw [frame]⟩

/-- Routine calls are no milestones. -/
theorem Uneventful.routine {before after : Session} (made : Routine before after) :
    Uneventful before after :=
  .calls_of ⟨made.1, made.2.mono fun _ => Call.milestone?_of_isRoutine⟩

/-- Handling events is uneventful. -/
theorem uneventful_ordinary : Ordinary Uneventful where
  routine := fun _ _ => .routine
  focus := fun environment effect focus session => by
    have moved : Uneventful session { session with focus := focus } := .frame rfl rfl rfl rfl
    exact trans_of Uneventful moved (.routine (applyFocus_routine environment effect _))
  dispose := by
    intro id session
    rw [run_disposeTask]
    refine ⟨⟨rfl, _, rfl, ?_⟩, rfl, rfl⟩
    simp [Trace.milestones, Call.milestone?]
  fetches := fun _ _ fetched =>
    .frame (by rw [fetched]) (by rw [fetched]) (by rw [fetched]) (by rw [fetched])

variable (environment : Environment)

/-- Launching a preview is uneventful. -/
theorem launchPreview_uneventful (kind : Preview.Kind) :
    Leads Uneventful (launchPreview environment kind) := by
  refine uneventful_ordinary.launchPreview environment (fun _ _ => .frame rfl rfl rfl rfl) ?_ ?_ kind
  · refine fun task => .get_bind fun session => ?_
    split
    · exact .frame rfl rfl rfl rfl
    · exact refl_of Uneventful session
  · intro task started
    have asked : Leads (Calls fun call => call.milestone? = none)
        (ask environment.editor (.openPreview task started)) := ask_calls environment.editor rfl
    exact asked.mono fun _ _ => .calls_of

/-- Every operation but starting, stopping and running the loop is uneventful. -/
theorem perform_uneventful (operation : Operation) (unstarted : operation ≠ .start)
    (unstopped : operation ≠ .stop) (still : operation ≠ .run) :
    Leads Uneventful (perform environment operation) :=
  uneventful_ordinary.performs environment (launchPreview_uneventful environment) unstarted
    unstopped still

end Session

end LanguageClient
