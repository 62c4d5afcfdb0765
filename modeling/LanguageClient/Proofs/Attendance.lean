import LanguageClient.Proofs.PreviewLaunch
import LanguageClient.Proofs.SessionLifecycle

/-!
# Running sessions attend to their events

Whatever happened to a session, while it runs it listens to the transport and reads the events of
the editor at a receiver that exists. A start gives it both, and only a stop takes them away. The
work on an event, a message or a command concerns neither of them.
-/

namespace LanguageClient

namespace EventHub

/-- Taking an event leaves every receiver in place. -/
theorem hasReceiver_receive (hub : EventHub) (taker id : Nat) :
    (hub.receive taker).2.hasReceiver id = hub.hasReceiver id := by
  rw [receive]
  split
  · rfl
  · rfl
  · rw [hasReceiver, List.any_map, hasReceiver]
    congr 1
    funext inbox
    simp only [Function.comp_apply]
    split <;> rfl

/-- Delivering an event leaves every receiver in place. -/
theorem hasReceiver_emit (hub : EventHub) (event : EditorEvent) (id : Nat) :
    (hub.emit event).hasReceiver id = hub.hasReceiver id := by
  rw [hasReceiver, emit, List.any_map, hasReceiver]
  congr 1
  funext inbox
  simp only [Function.comp_apply]
  split <;> rfl

/-- A new subscription has a receiver. -/
theorem hasReceiver_subscribe (hub : EventHub) :
    hub.subscribe.2.hasReceiver hub.subscribe.1.id = true := by
  simp [hasReceiver, subscribe]

/-- A receiver that exists holds a queue. -/
theorem queueOf?_of_hasReceiver {hub : EventHub} {id : Nat} (present : hub.hasReceiver id = true) :
    ∃ events, hub.queueOf? id = some events := by
  obtain ⟨inbox, member, named⟩ := List.any_eq_true.mp present
  cases found : hub.inboxes.find? (·.id == id) with
  | none => exact absurd named (List.find?_eq_none.mp found inbox member)
  | some inbox => exact ⟨inbox.queue, by rw [queueOf?, found, Option.map_some]⟩

end EventHub

namespace Session

variable (environment : Environment)

/-- Calls, the focus, the tasks and the identifiers may change, and nothing else. -/
def Works (before after : Session) : Prop :=
  after = { before with
    connection := after.connection
    focus := after.focus
    tasks := after.tasks
    drawn := after.drawn }

instance : IsPreorder Session Works where
  refl := fun _ => rfl
  trans := by
    intro first second third firstFrame secondFrame
    rw [Works, secondFrame, firstFrame]

/-- Handling something that happened is such work. -/
theorem works_handling : Handling Works where
  routine := by
    intro before after made
    rw [Works, made.1]
  focus := by
    intro environment effect focus session
    rw [Works, (applyFocus_routine environment effect { session with focus := focus }).1]
  dispose := by
    intro id session
    rw [Works, run_disposeTask]

/-- Launching a preview is such work. -/
theorem launchPreview_works (kind : Preview.Kind) :
    Leads Works (launchPreview environment kind) := by
  refine works_handling.launchPreview environment (fun _ _ => rfl) ?_ ?_ kind
  · intro task session
    rw [Works, run_registerPreview]
    split
    · rfl
    · rfl
  · intro task started session
    rw [Works, run_ask]

/-- The session listens to the transport, and reads the events of the editor at a receiver that
exists. -/
structure Attends (session : Session) : Prop where
  listening : session.listening = true
  receiver : ∃ id, session.receiver = some id ∧ session.source.hasReceiver id = true

/-- If the session runs it attends to its events. -/
def Attentive (session : Session) : Prop := session.isRunning = true → Attends session

/-- What is attentive stays attentive. -/
def StaysAttentive (before after : Session) : Prop := Attentive before → Attentive after

instance : IsPreorder Session StaysAttentive where
  refl := fun _ => id
  trans := fun _ _ _ first second => second ∘ first

/-- A session stays attentive when its lifecycle, its listening and its receiver stay. -/
theorem StaysAttentive.frame {before after : Session}
    (lifecycle : after.lifecycle = before.lifecycle)
    (listening : after.listening = before.listening)
    (receiver : after.receiver = before.receiver)
    (kept : ∀ id, after.source.hasReceiver id = before.source.hasReceiver id) :
    StaysAttentive before after := by
  intro attentive running
  have before : before.isRunning = true := by rwa [isRunning, ← lifecycle]
  obtain ⟨listens, id, reads, present⟩ := attentive before
  exact ⟨listening.trans listens, id, receiver.trans reads, (kept id).trans present⟩

/-- Work leaves the session attentive. -/
theorem Works.staysAttentive {before after : Session} (works : Works before after) :
    StaysAttentive before after := by
  rw [works]
  exact .frame rfl rfl rfl fun _ => rfl

/-- Handling something that happened leaves the session attentive. -/
theorem staysAttentive_handling : Handling StaysAttentive :=
  works_handling.mono fun _ _ => Works.staysAttentive

/-- A session that does not run is attentive. -/
theorem attentive_of_not_running {session : Session} (halted : session.isRunning = false) :
    Attentive session := by
  intro running
  rw [halted] at running
  cases running

/-- How far the session got, what it listens to and what it holds of its source stay; some of the
events that wait may be taken. -/
structure Undisturbed (before after : Session) : Prop where
  lifecycle : after.lifecycle = before.lifecycle
  listening : after.listening = before.listening
  subscriptions : after.subscriptions = before.subscriptions
  receiver : after.receiver = before.receiver
  next : after.source.next = before.source.next
  live : after.source.live = before.source.live
  present : ∀ id, after.source.hasReceiver id = before.source.hasReceiver id

instance : IsPreorder Session Undisturbed where
  refl := fun _ => ⟨rfl, rfl, rfl, rfl, rfl, rfl, fun _ => rfl⟩
  trans := fun _ _ _ first second =>
    ⟨second.lifecycle.trans first.lifecycle, second.listening.trans first.listening,
      second.subscriptions.trans first.subscriptions, second.receiver.trans first.receiver,
      second.next.trans first.next, second.live.trans first.live,
      fun id => (second.present id).trans (first.present id)⟩

/-- Work disturbs nothing. -/
theorem Works.undisturbed {before after : Session} (works : Works before after) :
    Undisturbed before after := by
  rw [works]
  exact ⟨rfl, rfl, rfl, rfl, rfl, rfl, fun _ => rfl⟩

/-- Taking the next event disturbs nothing. -/
theorem next_undisturbed : Leads Undisturbed next := by
  have arrival : Leads Undisturbed nextArrival := by
    refine .get_bind fun session => ?_
    split
    · exact Leads.set_bind ⟨rfl, rfl, rfl, rfl, rfl, rfl, fun _ => rfl⟩ (.pure _)
    · exact refl_of Undisturbed session
  refine .get_bind fun session => ?_
  split
  · exact refl_of Undisturbed session
  · rename_i id reads
    dsimp only
    split
    · exact refl_of Undisturbed session
    · split
      · rename_i event source received
        have taken : source = (session.source.receive id).2 := by rw [received]
        subst taken
        have frame := session.source.receive_frame id
        exact Leads.set_bind ⟨rfl, rfl, rfl, rfl, frame.1, frame.2,
          session.source.hasReceiver_receive id⟩ (.pure _)
      · exact arrival session
      · exact refl_of Undisturbed session
      · exact refl_of Undisturbed session

/-- A turn of the loop disturbs nothing. -/
theorem turn_undisturbed : Leads Undisturbed (turn environment) :=
  (works_handling.mono fun _ _ => Works.undisturbed).turn environment next_undisturbed

/-- Taking the next event leaves the session attentive. -/
theorem next_staysAttentive : Leads StaysAttentive next :=
  next_undisturbed.mono fun _ _ undisturbed =>
    .frame undisturbed.lifecycle undisturbed.listening undisturbed.receiver undisturbed.present

/-- After a stop the session does not run. -/
theorem stop_not_running (session : Session) :
    ((stop environment).run session).2.isRunning = false := by
  cases running : session.isRunning with
  | false => rw [run_stop_still environment running, running]
  | true =>
    rw [run_stop environment running, isRunning, (takeLeave_calls environment _).1]
    rfl

/-- A stop leaves the session attentive, since it does not run any more. -/
theorem stop_staysAttentive : Leads StaysAttentive (stop environment) :=
  fun session _ => attentive_of_not_running (stop_not_running environment session)

/-- What is done over the connection is work. -/
theorem overConnection_works {α : Type} (action : Connection.Action α) :
    Leads Works (overConnection action) := by
  have unbound : Leads (fun _ _ => True) action := fun _ => trivial
  exact overConnection_leads unbound fun _ _ _ => rfl

/-- Announcing the open documents and the first main file is work. -/
theorem bringUpToDate_works : Leads Works (bringUpToDate environment) :=
  .bind .get fun _ => .bind (overConnection_works _) fun _ => works_handling.focusFirst environment

/-- Work leaves a session that attends attending. -/
theorem Works.attends {before after : Session} (works : Works before after)
    (attends : Attends before) : Attends after := by
  obtain ⟨listens, id, reads, present⟩ := attends
  rw [works]
  exact ⟨listens, id, reads, present⟩

/-- After a conversation that succeeds the session attends to its events, if it listened before. -/
theorem converse_attends {settled session after : Session} (listens : session.listening = true)
    (succeeded : (converse environment settled).run session = (.ok (), after)) :
    Attends after := by
  obtain ⟨answer, introduced, introduces, rest⟩ := of_run_bind_ok succeeded
  obtain ⟨done, subscribed, subscribes, last⟩ := of_run_bind_ok rest
  have works := bringUpToDate_works environment subscribed
  rw [last] at works
  refine works.attends ?_
  have introduction := overConnection_works (Connection.introduce environment.peer
    environment.processId (Uri.ofFilePath? settled.options.root.toList)
    (some settled.resolved.toJson)) session
  rw [introduces] at introduction
  have subscription : subscribed = (subscribe.run introduced).2 := by rw [subscribes]
  rw [subscription]
  refine ⟨?_, introduced.source.subscribe.1.id, rfl, introduced.source.hasReceiver_subscribe⟩
  have framed : introduced.listening = session.listening := by
    change Works session introduced at introduction
    rw [introduction]
  exact framed.trans listens

/-- After the steps of a start that succeed the session attends to its events. -/
theorem bringUp_attends {session after : Session}
    (succeeded : (bringUp environment).run session = (.ok (), after)) : Attends after := by
  rw [run_bringUp environment rfl] at succeeded
  split at succeeded
  · cases succeeded
  · rename_i binary found
    obtain ⟨done, launched, launches, conversed⟩ := of_run_bind_ok succeeded
    refine converse_attends environment ?_ conversed
    obtain ⟨error, failed⟩ | ⟨cause, -, refused⟩ | ⟨-, completed⟩ :=
      launch_cases environment binary ((resolveSettings environment).run session).2
    · rw [failed] at launches
      cases launches
    · rw [refused] at launches
      cases launches
    · rw [completed] at launches
      cases launches
      rfl

/-- A start leaves the session attentive: one that succeeds gave it what it reads, and one that
fails leaves it stopped. -/
theorem start_staysAttentive : Leads StaysAttentive (start environment) := by
  intro session attentive
  by_cases idle : session.lifecycle = .idle
  · rw [run_start, if_pos idle, bringUpOrAbandon]
    have attempted := run_attempt (bringUp environment) session
    cases outcome : (bringUp environment).run session with
    | mk result reached =>
      rw [outcome] at attempted
      cases result with
      | ok done =>
        rw [run_bind_ok attempted]
        exact fun _ => bringUp_attends environment outcome
      | error halt =>
        cases halt with
        | overflow => exact absurd (congrArg Prod.fst outcome) (bringUp_avoids environment session)
        | failed error =>
          rw [run_bind_ok attempted, run_bind_ok (run_abandon environment reached)]
          exact attentive_of_not_running rfl
  · rw [run_start, if_neg idle]
    exact attentive

/-- Any number of turns of the loop leave the session attentive. -/
theorem turns_staysAttentive (count : Nat) :
    Leads StaysAttentive (turns environment count) := by
  induction count with
  | zero => exact .pure _
  | succ count inductionHypothesis =>
    refine .bind (staysAttentive_handling.turn environment next_staysAttentive) fun pace => ?_
    cases pace with
    | proceed => exact inductionHypothesis
    | wait => exact .pure _
    | finish => exact .bind (stop_staysAttentive environment) fun _ => .pure _

/-- Every operation leaves the session attentive. -/
theorem perform_staysAttentive (operation : Operation) :
    Leads StaysAttentive (perform environment operation) := by
  have launched (kind : Preview.Kind) : Leads StaysAttentive (launchPreview environment kind) :=
    (launchPreview_works environment kind).mono fun _ _ => Works.staysAttentive
  cases operation with
  | start => exact (start_staysAttentive environment).bind_pure _
  | stop => exact (stop_staysAttentive environment).bind_pure _
  | run =>
    refine .bind (.bind .get fun session => turns_staysAttentive environment _) fun loopEnd => ?_
    cases loopEnd with
    | stopped => exact .pure _
    | pending => exact .pure _
  | _ => exact staysAttentive_handling.performs environment launched (by simp) (by simp) (by simp)

/-- Everything that happens leaves the session attentive. -/
theorem happen_staysAttentive (session : Session) (happening : Happening) :
    StaysAttentive session (session.happen happening) := by
  cases happening with
  | performed environment operation => exact perform_staysAttentive environment operation session
  | turned environment =>
    exact staysAttentive_handling.turn environment next_staysAttentive session
  | emitted event => exact .frame rfl rfl rfl (session.source.hasReceiver_emit event)
  | arrived event => exact .frame rfl rfl rfl fun _ => rfl
  | sourceClosed => exact .frame rfl rfl rfl fun _ => rfl
  | arrivalsClosed => exact .frame rfl rfl rfl fun _ => rfl

/-- Every reached session that runs attends to its events. -/
theorem reached_attentive (options : Options) (happenings : List Happening) :
    Attentive (reached options happenings) :=
  happenings_obey happen_staysAttentive (fresh options) happenings
    (attentive_of_not_running rfl)

end Session

end LanguageClient
