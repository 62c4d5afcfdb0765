import LanguageClient.Proofs.Attendance
import LanguageClient.Proofs.ServerMessages

/-!
# The order in which the loop handles events

A run of the loop is a plain sequence: all queued events of the editor in their order, then, if more
of them can follow, the events of the transport in their order up to the end of the conversation,
and then one stop, whose result is the result of the run. If the editor's events are over, no event
of the transport is handled.

The loop takes one event after the other from queues that are part of the state, while the sequence
is carried out on a state in which they were taken already. The two agree because nobody who handles
an event looks at the queues.
-/

namespace LanguageClient

namespace EventHub

/-- Two hubs that differ at most in what a receiver holds. -/
def AgreeBut (id : Nat) (first second : EventHub) : Prop :=
  first.dropReceiver id = second.dropReceiver id

variable {hub : EventHub} {id : Nat}

/-- Such hubs have the same live subscriptions. -/
theorem AgreeBut.live {first second : EventHub} (agree : AgreeBut id first second) :
    first.live = second.live := by
  have same : (first.dropReceiver id).live = (second.dropReceiver id).live := by rw [agree]
  exact same

/-- Taking an event from the front of a queue. -/
theorem receive_front {event : EditorEvent} {rest : List EditorEvent}
    (holds : hub.queueOf? id = some (event :: rest)) :
    ∃ taken, hub.receive id = (.event event, taken) ∧ taken.queueOf? id = some rest ∧
      AgreeBut id taken hub := by
  let take (inbox : Inbox) : Inbox := if inbox.id == id then { inbox with queue := rest } else inbox
  have named (inbox : Inbox) : (take inbox).id = inbox.id := by
    simp only [take]
    split <;> rfl
  refine ⟨{ hub with inboxes := hub.inboxes.map take }, by rw [receive, holds], ?_, ?_⟩
  · obtain ⟨inbox, found, -⟩ := Option.map_eq_some_iff.mp holds
    have own : (inbox.id == id) = true := by simpa using List.find?_some found
    simp only [queueOf?, List.find?_map, Function.comp_def, named, found, Option.map_some, take,
      own, if_true]
  · have others : ∀ inbox ∈ hub.inboxes.filter (·.id != id), take inbox = inbox := by
      intro inbox member
      have other : (inbox.id == id) = false := by
        simpa [bne] using (List.mem_filter.mp member).2
      simp only [take, other, Bool.false_eq_true, if_false]
    simp only [AgreeBut, dropReceiver, List.filter_map, Function.comp_def, named]
    rw [List.map_congr_left others, List.map_id']

end EventHub

/-- Disposing subscriptions does not concern a receiver. -/
theorem Subscription.disposeAll_dropReceiver (group : List Subscription) (hub : EventHub)
    (id : Nat) :
    (disposeAll group hub).dropReceiver id = disposeAll group (hub.dropReceiver id) := by
  rw [disposeAll_eq, disposeAll_eq]
  rfl

namespace Session

variable {α β : Type}

/-- A session with other queues of events. -/
def requeue (session : Session) (source : EventHub) (arrivals : Arrivals) : Session :=
  { session with source := source, arrivals := arrivals }

/-- An action that does not look at the queues of events: what it does with others in their place is
the same. -/
def Blind (action : Action α) : Prop :=
  ∀ session source arrivals, action.run (session.requeue source arrivals) =
    ((action.run session).1, (action.run session).2.requeue source arrivals)

namespace Blind

/-- A value alone is blind. -/
theorem pure (value : α) : Blind (pure value : Action α) :=
  fun _ _ _ => rfl

/-- A failure alone is blind. -/
theorem throw (halt : Halt) : Blind (throw halt : Action α) :=
  fun _ _ _ => rfl

/-- One blind action after another. -/
theorem bind {action : Action α} {next : α → Action β} (first : Blind action)
    (rest : ∀ value, Blind (next value)) : Blind (action >>= next) := by
  intro session source arrivals
  rw [run_bind, run_bind, first]
  cases outcome : action.run session with
  | mk result after =>
    cases result with
    | ok value => exact rest value after source arrivals
    | error halt => rfl

/-- What is done with the current state is blind if it makes the same of it with other queues. -/
theorem get_bind {next : Session → Action α}
    (same : ∀ session source arrivals,
      (next (session.requeue source arrivals)).run (session.requeue source arrivals) =
        (((next session).run session).1, ((next session).run session).2.requeue source arrivals)) :
    Blind (get >>= next) :=
  same

/-- Keeping a failure as a value is as blind as what failed. -/
theorem attempt {action : Action α} (blind : Blind action) : Blind (attempt action) := by
  intro session source arrivals
  rw [run_attempt, run_attempt, blind]
  cases outcome : action.run session with
  | mk result after =>
    cases result with
    | ok value => rfl
    | error halt => cases halt <;> rfl

/-- So is ignoring a failure. -/
theorem ignoring {action : Action α} (blind : Blind action) : Blind (ignoring action) :=
  bind blind.attempt fun _ => pure ()

end Blind

/-- What is done over the connection is blind. -/
theorem overConnection_blind (action : Connection.Action α) : Blind (overConnection action) := by
  intro session source arrivals
  have same : (session.requeue source arrivals).connection = session.connection := rfl
  rw [run_overConnection, run_overConnection, same]
  cases action.run session.connection with
  | mk result connection => cases result <;> rfl

/-- A call to the editor is blind. -/
theorem tell_blind (call : EditorCall) : Blind (tell call) :=
  fun _ _ _ => rfl

/-- So is one whose outcome matters. -/
theorem ask_blind (editor : Editor) (call : EditorCall) : Blind (ask editor call) := by
  intro session source arrivals
  rw [run_ask, run_ask]
  rfl

/-- The disposal of a task is blind. -/
theorem disposeTask_blind (id : String) : Blind (disposeTask id) := by
  intro session source arrivals
  rw [disposeTask_run, disposeTask_run]
  rfl

variable (environment : Environment)

/-- Announcing a main file is blind. -/
theorem applyFocus?_blind (effect : Option FocusEffect) :
    Blind (applyFocus? environment effect) := by
  cases effect with
  | none => exact .pure ()
  | some effect => exact .bind (tell_blind _) fun _ => (overConnection_blind _).ignoring

/-- Handling an event of the editor is blind. -/
theorem handleEvent_blind (event : EditorEvent) : Blind (handleEvent environment event) := by
  rw [handleEvent_eq]
  refine .get_bind fun session => ?_
  have moving : Blind (do
      let told ← get
      moveFocus environment told (focusMove environment session.options.primary told event)) := by
    refine .get_bind fun told source arrivals => ?_
    have moved :
        focusMove environment session.options.primary (told.requeue source arrivals) event =
          focusMove environment session.options.primary told event := by
      cases event <;> rfl
    rw [moved]
    exact applyFocus?_blind environment _ { told with focus := _ } source arrivals
  intro source arrivals
  exact ((overConnection_blind (DocumentSync.forward environment.peer session.options.primary
    event)).bind fun _ => moving) session source arrivals

/-- Handling a message is blind. -/
theorem handleMessage_blind (message : Rpc.Message) :
    Blind (handleMessage environment message) := by
  cases message with
  | request call =>
    refine .get_bind fun session source arrivals => ?_
    exact (overConnection_blind _).ignoring session source arrivals
  | response answer => exact .pure ()
  | notification notice =>
    rw [handleMessage, handleNotification]
    split
    · rename_i decoded _
      cases decoded with
      | compileStatus status =>
        rw [handleDecoded]
        split
        · exact tell_blind _
        · exact .throw _
      | scrollSource scroll =>
        rw [handleDecoded]
        split
        · exact (ask_blind _ _).ignoring
        · exact .pure ()
      | documentOutline outline => exact tell_blind _
      | previewDispose dispose => exact .bind (disposeTask_blind _) fun _ => .pure ()
      | other method => exact .pure ()
    · exact .pure ()

/-- What may be done for an event: it does not look at the queues, does not concern what the session
reads, and does not fail. -/
structure Diligent (action : Action Unit) : Prop where
  blind : Blind action
  works : Leads Works action
  succeeds : ∀ session, (action.run session).1 = .ok ()

namespace Diligent

variable {action : Action Unit}

/-- What becomes of it, with whatever queues. -/
theorem run (diligent : Diligent action) (session : Session) (source : EventHub)
    (arrivals : Arrivals) : action.run (session.requeue source arrivals) =
      (.ok (), (action.run session).2.requeue source arrivals) := by
  rw [diligent.blind, diligent.succeeds]

/-- It comes to its end. -/
theorem completes (diligent : Diligent action) (session : Session) :
    action.run session = (.ok (), (action.run session).2) :=
  Prod.ext (diligent.succeeds session) rfl

/-- One after the other. -/
theorem bind {next : Action Unit} (first : Diligent action) (second : Diligent next) :
    Diligent (action >>= fun _ => next) := by
  refine ⟨first.blind.bind fun _ => second.blind, first.works.bind fun _ => second.works, ?_⟩
  intro session
  rw [run_bind_ok (first.completes session)]
  exact second.succeeds _

/-- One for each of some events. -/
theorem forM {handle : α → Action Unit} {events : List α}
    (each : ∀ event ∈ events, Diligent (handle event)) : Diligent (events.forM handle) := by
  induction events with
  | nil => exact ⟨.pure _, .pure _, fun _ => rfl⟩
  | cons event events inductionHypothesis =>
    have first : Diligent (handle event) := each event List.mem_cons_self
    have rest : Diligent (events.forM handle) :=
      inductionHypothesis fun other member => each other (List.mem_cons_of_mem _ member)
    exact first.bind rest

end Diligent

/-- Handling an event of the editor does not overflow. -/
theorem handleEvent_avoids (event : EditorEvent) :
    Avoids .overflow (handleEvent environment event) := by
  rw [handleEvent_eq]
  refine .bind .get fun session => .bind (overConnection_avoids _) fun _ => ?_
  refine .bind .get fun told => .bind (.set _) fun _ => ?_
  cases (focusMove environment session.options.primary told event).2 with
  | none => exact .pure ()
  | some effect => exact applyFocus_avoids environment effect

/-- What the loop does for an event of the editor. A failure is ignored. -/
theorem handleEvent_diligent (event : EditorEvent) :
    Diligent (ignoring (handleEvent environment event)) where
  blind := (handleEvent_blind environment event).ignoring
  works := ignoring_leads (works_handling.handleEvent environment event)
  succeeds := ignoring_succeeds (handleEvent_avoids environment event)

/-- What an event of the transport asks for: a message is handled, a crash is shown, and nothing is
done about other changes of the process and about the end of the conversation. -/
def heed : TransportEvent → Action Unit
  | .message message => handleMessage environment message
  | .status .crashed => tell (.showError "The tinymist language server crashed.")
  | .status _ | .disconnected => return

/-- No message reports a total that exceeds its word. -/
def TotalsFit (events : List TransportEvent) : Prop :=
  ∀ message, .message message ∈ events → ∀ status ∈ message.compileStatus?, ¬ status.Overflows

/-- The first of some events fit if all do. -/
theorem TotalsFit.of_append {events before rest : List TransportEvent} (fits : TotalsFit events)
    (parts : events = before ++ rest) : TotalsFit before := by
  intro message member
  apply fits message
  rw [parts]
  exact List.mem_append_left rest member

/-- What the loop does for an event of the transport. -/
theorem heed_diligent {events : List TransportEvent} (fits : TotalsFit events)
    {event : TransportEvent} (member : event ∈ events) : Diligent (heed environment event) := by
  cases event with
  | message message =>
    refine ⟨handleMessage_blind environment message,
      works_handling.handleMessage environment message, ?_⟩
    intro session
    obtain ⟨calls, tasks, -, outcome⟩ :=
      settles_handleMessage environment session message (fits message member)
    exact congrArg Prod.fst outcome
  | disconnected => exact ⟨.pure _, .pure _, fun _ => rfl⟩
  | status status =>
    cases status with
    | crashed => exact ⟨tell_blind _, works_handling.calls (tell_calls rfl), fun _ => rfl⟩
    | _ => exact ⟨.pure _, .pure _, fun _ => rfl⟩

/-- An event of the transport that is not the end of the conversation is heeded, and the loop goes
on. -/
theorem handleArrival_eq {event : TransportEvent} (going : event ≠ .disconnected) :
    handleArrival environment event = (do
      heed environment event
      return .proceed) := by
  cases event with
  | message message => rfl
  | disconnected => exact absurd rfl going
  | status status => cases status <;> rfl

/-- The session listens to the transport, and its receiver holds these events of the editor. -/
structure Holds (session : Session) (id : Nat) (events : List EditorEvent) : Prop where
  listening : session.listening = true
  receiver : session.receiver = some id
  queue : session.source.queueOf? id = some events

section Next

variable {session : Session} {id : Nat}

/-- Work leaves to the session what it holds. -/
theorem Holds.works {events : List EditorEvent} {after : Session} (holds : Holds session id events)
    (works : Works session after) : Holds after id events := by
  rw [works]
  exact ⟨holds.listening, holds.receiver, holds.queue⟩

/-- What a session that attends to its events finds next: an event of the editor if one waits, the
end of these events if no more can follow, and otherwise what the transport has. -/
theorem run_next {events : List EditorEvent} (holds : Holds session id events) :
    next.run session =
      match session.source.receive id with
      | (.event event, taken) => (.ok (.editor event), session.requeue taken session.arrivals)
      | (.empty, _) => nextArrival.run session
      | (.closed, _) | (.noReceiver, _) => (.ok .editorEnded, session) := by
  rw [next, run_get_bind, holds.receiver]
  dsimp only
  rw [if_neg (by simp [holds.listening])]
  obtain ⟨received, taken⟩ := session.source.receive id
  cases received with
  | event event =>
    change (_, { session with source := taken, receiver := some id }) = _
    rw [← holds.receiver]
    rfl
  | empty => rfl
  | closed => rfl
  | noReceiver => rfl

/-- If no event of the editor waits and no more can follow, they are over. -/
theorem next_over (holds : Holds session id []) (closed : id ∉ session.source.live) :
    next.run session = (.ok .editorEnded, session) := by
  have received : session.source.receive id = (.closed, session.source) := by
    rw [EventHub.receive, holds.queue]
    simp [closed]
  rw [run_next holds, received]

/-- If none waits and more can follow, it is the turn of the transport. -/
theorem next_arrival (holds : Holds session id []) (live : id ∈ session.source.live) :
    next.run session = nextArrival.run session := by
  have received : session.source.receive id = (.empty, session.source) := by
    rw [EventHub.receive, holds.queue]
    simp [live]
  rw [run_next holds, received]

end Next

section Turns

variable {session : Session} {id : Nat}

/-- Of what is done for some events, the part for the first one is over. -/
theorem run_forM_cons (handle : α → Action Unit) {event : α} {events : List α}
    {rest : Action β} {after : Session} (done : (handle event).run session = (.ok (), after)) :
    (do
      (event :: events).forM handle
      rest : Action β).run session = (do
      events.forM handle
      rest : Action β).run after := by
  change ((handle event >>= fun _ => events.forM handle) >>= fun _ => rest).run session = _
  rw [bind_assoc, run_bind_ok done]

/-- A turn that takes an event and does something for it goes on. What it did would have been the
same with other queues. -/
theorem Diligent.turned {action : Action Unit} (diligent : Diligent action) {source : EventHub}
    {arrivals : Arrivals}
    (takes : (turn environment).run session = (do
      action
      return .proceed : Action Pace).run (session.requeue source arrivals)) :
    ∃ handled, (turn environment).run session = (.ok .proceed, handled) ∧
      Works (session.requeue source arrivals) handled ∧
      ∀ otherSource otherArrivals, action.run (session.requeue otherSource otherArrivals) =
        (.ok (), handled.requeue otherSource otherArrivals) := by
  let fetched := session.requeue source arrivals
  refine ⟨(action.run fetched).2, ?_, diligent.works fetched, ?_⟩
  · rw [takes, run_bind_ok (diligent.completes fetched)]
    rfl
  · exact diligent.run fetched

/-- The queued events of the editor are handled in their order before anything else.

Proof: by induction on the events. Handling one neither looks at the queue nor concerns it, so the
events behind it may be taken at once. -/
theorem turns_events {events : List EditorEvent} (holds : Holds session id events) :
    ∃ source, source.queueOf? id = some [] ∧ EventHub.AgreeBut id source session.source ∧
      ∀ count, (turns environment (events.length + count)).run session = (do
        events.forM fun event => ignoring (handleEvent environment event)
        turns environment count).run (session.requeue source session.arrivals) := by
  induction events generalizing session with
  | nil =>
    refine ⟨session.source, holds.queue, rfl, fun count => ?_⟩
    rw [List.length_nil, Nat.zero_add]
    rfl
  | cons event events inductionHypothesis =>
    obtain ⟨taken, received, left, agree⟩ := EventHub.receive_front holds.queue
    have found : next.run session =
        (.ok (.editor event), session.requeue taken session.arrivals) := by
      rw [run_next holds, received]
    obtain ⟨handled, turned, works, later⟩ :=
      (handleEvent_diligent environment event).turned environment (run_bind_ok found)
    have fetched : Holds (session.requeue taken session.arrivals) id events :=
      ⟨holds.listening, holds.receiver, left⟩
    obtain ⟨source, empty, same, rest⟩ := inductionHypothesis (fetched.works works)
    have kept : handled.arrivals = session.arrivals := by
      rw [works]
      rfl
    refine ⟨source, empty, ?_, ?_⟩
    · rw [works] at same
      exact same.trans agree
    · intro count
      calc
        (turns environment ((event :: events).length + count)).run session
          = (turns environment (events.length + count + 1)).run session := by
            rw [List.length_cons, Nat.add_right_comm]
        _ = (turns environment (events.length + count)).run handled := by
            rw [turns, run_bind_ok turned]
        _ = (do
            events.forM fun event => ignoring (handleEvent environment event)
            turns environment count).run (handled.requeue source session.arrivals) := by
            rw [rest count, kept]
        _ = _ := (run_forM_cons (fun event => ignoring (handleEvent environment event))
            (later source session.arrivals)).symm

/-- As long as the conversation does not end, the queued events of the transport are handled in
their order once no event of the editor waits.

Proof: by induction on the events, as for those of the editor. -/
theorem turns_arrivals {before rest : List TransportEvent} (holds : Holds session id [])
    (live : id ∈ session.source.live) (queued : session.arrivals.queue = before ++ rest)
    (going : .disconnected ∉ before) (fits : TotalsFit before) (count : Nat) :
    (turns environment (before.length + count)).run session = (do
      before.forM (heed environment)
      turns environment count).run
        (session.requeue session.source ⟨rest, session.arrivals.ended⟩) := by
  induction before generalizing session with
  | nil =>
    have same : session.requeue session.source ⟨rest, session.arrivals.ended⟩ = session := by
      rw [List.nil_append] at queued
      rw [← queued]
      rfl
    rw [List.length_nil, Nat.zero_add, same]
    rfl
  | cons event events inductionHypothesis =>
    have proceeds : event ≠ .disconnected := fun same => going (same ▸ List.mem_cons_self)
    have others : .disconnected ∉ events := fun member => going (List.mem_cons_of_mem _ member)
    have fitting : TotalsFit events := fun message member =>
      fits message (List.mem_cons_of_mem _ member)
    have takes : (turn environment).run session = (do
        heed environment event
        return .proceed : Action Pace).run
          (session.requeue session.source ⟨events ++ rest, session.arrivals.ended⟩) := by
      have found : next.run session = (.ok (.server event),
          session.requeue session.source ⟨events ++ rest, session.arrivals.ended⟩) := by
        rw [next_arrival holds live, nextArrival, run_get_bind, queued]
        rfl
      rw [turn, run_bind_ok found, ← handleArrival_eq environment proceeds]
    obtain ⟨handled, turned, works, later⟩ :=
      (heed_diligent environment fits List.mem_cons_self).turned environment takes
    have fetched : Holds (session.requeue session.source
        ⟨events ++ rest, session.arrivals.ended⟩) id [] :=
      ⟨holds.listening, holds.receiver, holds.queue⟩
    have keptSource : handled.source = session.source := by
      rw [works]
      rfl
    have left : handled.arrivals = ⟨events ++ rest, session.arrivals.ended⟩ := by
      rw [works]
      rfl
    have remaining := inductionHypothesis (fetched.works works) (keptSource ▸ live)
      (by rw [left]) others fitting
    calc
      (turns environment ((event :: events).length + count)).run session
        = (turns environment (events.length + count + 1)).run session := by
          rw [List.length_cons, Nat.add_right_comm]
      _ = (turns environment (events.length + count)).run handled := by
          rw [turns, run_bind_ok turned]
      _ = (do
          events.forM (heed environment)
          turns environment count).run
            (handled.requeue session.source ⟨rest, session.arrivals.ended⟩) := by
          rw [remaining, keptSource, left]
      _ = _ := (run_forM_cons (heed environment) (later _ _)).symm

/-- The end of the loop: the session is stopped, and the result is that of the stop. -/
def finishLoop : Action LoopEnd := do
  stop environment
  return .stopped

/-- A turn that finds the end of the loop stops the session. -/
theorem turns_finish {found : Session}
    (finishes : (turn environment).run session = (.ok .finish, found)) (count : Nat) :
    (turns environment (count + 1)).run session = (finishLoop environment).run found := by
  rw [turns, run_bind_ok finishes]
  rfl

/-- Once the events of the editor are over the session is stopped. -/
theorem turns_over (holds : Holds session id []) (closed : id ∉ session.source.live) (count : Nat) :
    (turns environment (count + 1)).run session = (finishLoop environment).run session := by
  apply turns_finish
  rw [turn, run_bind_ok (next_over holds closed)]
  rfl

/-- At the end of the conversation the session is stopped. -/
theorem turns_disconnected {rest : List TransportEvent} (holds : Holds session id [])
    (live : id ∈ session.source.live)
    (queued : session.arrivals.queue = .disconnected :: rest) (count : Nat) :
    (turns environment (count + 1)).run session = (finishLoop environment).run
      (session.requeue session.source ⟨rest, session.arrivals.ended⟩) := by
  apply turns_finish
  have found : next.run session = (.ok (.server .disconnected),
      session.requeue session.source ⟨rest, session.arrivals.ended⟩) := by
    rw [next_arrival holds live, nextArrival, run_get_bind, queued]
    rfl
  rw [turn, run_bind_ok found]
  rfl

/-- When nothing is left to read the session is stopped if nothing can follow, and otherwise the
loop waits. -/
theorem turns_exhausted (holds : Holds session id []) (live : id ∈ session.source.live)
    (empty : session.arrivals.queue = []) (count : Nat) :
    (turns environment (count + 1)).run session =
      if session.arrivals.ended then (finishLoop environment).run session
      else (.ok .pending, session) := by
  have found : next.run session =
      (.ok (if session.arrivals.ended then .serverEnded else .nothing), session) := by
    rw [next_arrival holds live, nextArrival, run_get_bind, empty]
    rfl
  cases ended : session.arrivals.ended with
  | true =>
    rw [ended] at found
    apply turns_finish
    rw [turn, run_bind_ok found]
    rfl
  | false =>
    rw [ended] at found
    have waits : (turn environment).run session = (.ok .wait, session) := by
      rw [turn, run_bind_ok found]
      rfl
    rw [turns, run_bind_ok waits]
    rfl

end Turns

section Finish

variable {session : Session} {id : Nat} {source : EventHub} {arrivals : Arrivals}

/-- A stop drops the receiver, so what it held does not matter. -/
theorem stop_agrees (running : session.isRunning = true) (reads : session.receiver = some id)
    (agree : EventHub.AgreeBut id source session.source) :
    (stop environment).run (session.requeue source arrivals) =
      (stop environment).run (session.requeue session.source arrivals) := by
  have same : (session.requeue source arrivals).released =
      (session.requeue session.source arrivals).released := by
    unfold EventHub.AgreeBut at agree
    simp only [released, requeue, reads, Subscription.disposeAll_dropReceiver, agree]
    rfl
  have stops (hub : EventHub) : (stop environment).run (session.requeue hub arrivals) =
      (takeLeave environment).run (session.requeue hub arrivals).released :=
    run_stop environment running
  rw [stops, stops, same]

/-- The end of the loop is the same. -/
theorem finishLoop_agrees (running : session.isRunning = true) (reads : session.receiver = some id)
    (agree : EventHub.AgreeBut id source session.source) :
    (finishLoop environment).run (session.requeue source arrivals) =
      (finishLoop environment).run (session.requeue session.source arrivals) := by
  rw [finishLoop, run_bind, run_bind, stop_agrees environment running reads agree]

/-- After the end of the loop the session does not run. -/
theorem finishLoop_not_running (session : Session) :
    ((finishLoop environment).run session).2.isRunning = false := by
  rw [finishLoop, run_bind_pure]
  exact stop_not_running environment session

end Finish

section Run

variable {session : Session} {id : Nat} {events : List EditorEvent}

/-- What is done for the queued events of the editor. -/
theorem events_diligent (events : List EditorEvent) :
    Diligent (events.forM fun event => ignoring (handleEvent environment event)) :=
  .forM fun event _ => handleEvent_diligent environment event

/-- What is done for events of the transport whose totals fit. -/
theorem arrivals_diligent {arrivals : List TransportEvent} (fits : TotalsFit arrivals) :
    Diligent (arrivals.forM (heed environment)) :=
  .forM fun _ member => heed_diligent environment fits member

/-- What the loop does for queued events of the editor, and then for some of the transport. -/
def handleInOrder (events : List EditorEvent) (arrivals : List TransportEvent) : Action Unit := do
  events.forM fun event => ignoring (handleEvent environment event)
  arrivals.forM (heed environment)

/-- It neither looks at the queues nor fails. -/
theorem handleInOrder_diligent (events : List EditorEvent) {arrivals : List TransportEvent}
    (fits : TotalsFit arrivals) : Diligent (handleInOrder environment events arrivals) :=
  (events_diligent environment events).bind (arrivals_diligent environment fits)

/-- A run takes a turn for every queued event, and one more. -/
theorem run_eq_turns (holds : Holds session id events) :
    (run environment).run session =
      (turns environment (events.length + (session.arrivals.queue.length + 1))).run session := by
  have waiting : session.waiting = events.length + session.arrivals.queue.length := by
    rw [Session.waiting, holds.receiver, Option.elim_some, EventHub.waiting, holds.queue]
    rfl
  rw [run, run_get_bind, waiting, Nat.add_assoc]

/-- A run handles the queued events of the editor first, and finds none then. -/
theorem run_edits (holds : Holds session id events) :
    ∃ source, EventHub.AgreeBut id source session.source ∧
      let edited :=
        ((events.forM fun event => ignoring (handleEvent environment event)).run session).2
      Holds (edited.requeue source session.arrivals) id [] ∧
      (run environment).run session =
        (turns environment (session.arrivals.queue.length + 1)).run
          (edited.requeue source session.arrivals) := by
  obtain ⟨source, empty, agree, handles⟩ := turns_events environment holds
  have editing := events_diligent environment events
  have taken : Holds (session.requeue source session.arrivals) id [] :=
    ⟨holds.listening, holds.receiver, empty⟩
  have done := editing.run session source session.arrivals
  have works := editing.works (session.requeue source session.arrivals)
  rw [done] at works
  refine ⟨source, agree, taken.works works, ?_⟩
  rw [run_eq_turns environment holds, handles, run_bind_ok done]

/-- A run handles the queued events of the editor, and then, if more of them can follow, events of
the transport up to the end of the conversation. What it finds then is the rest.

Proof: the second stage starts from what the first one left, with the events of the editor taken
from their queue. -/
theorem run_reaches (holds : Holds session id events) {before rest : List TransportEvent}
    (opened : before = [] ∨ id ∈ session.source.live)
    (queued : session.arrivals.queue = before ++ rest) (going : .disconnected ∉ before)
    (fits : TotalsFit before) :
    ∃ source, EventHub.AgreeBut id source session.source ∧
      let found := ((handleInOrder environment events before).run session).2.requeue source
        ⟨rest, session.arrivals.ended⟩
      Holds found id [] ∧
      (run environment).run session = (turns environment (rest.length + 1)).run found := by
  obtain ⟨source, agree, handed, runs⟩ := run_edits environment holds
  refine ⟨source, agree, ?_⟩
  rw [handleInOrder, run_bind_ok ((events_diligent environment events).completes session)]
  generalize ((events.forM fun event => ignoring (handleEvent environment event)).run session).2 =
    edited at handed runs ⊢
  obtain rfl | live := opened
  · have same : session.arrivals = ⟨rest, session.arrivals.ended⟩ := by
      rw [← List.nil_append rest, ← queued]
    rw [same] at handed runs
    exact ⟨handed, runs⟩
  · have heeding := arrivals_diligent environment fits
    have done := heeding.run edited source ⟨rest, session.arrivals.ended⟩
    have works := heeding.works (edited.requeue source ⟨rest, session.arrivals.ended⟩)
    rw [done] at works
    have taken : Holds (edited.requeue source ⟨rest, session.arrivals.ended⟩) id [] :=
      ⟨handed.listening, handed.receiver, handed.queue⟩
    refine ⟨taken.works works, ?_⟩
    have follows := turns_arrivals environment handed (agree.live ▸ live) queued going fits
      (rest.length + 1)
    rw [runs, queued, List.length_append, Nat.add_assoc, follows]
    exact run_bind_ok done

/-- The session is stopped in the same way whether the events were taken from the queue of the
editor one by one or not at all. -/
theorem finish_in_order (holds : Holds session id events) (running : session.isRunning = true)
    {before : List TransportEvent} (fits : TotalsFit before) {source : EventHub}
    (agree : EventHub.AgreeBut id source session.source) (arrivals : Arrivals) :
    (finishLoop environment).run
        (((handleInOrder environment events before).run session).2.requeue source arrivals) =
      (do
        handleInOrder environment events before
        finishLoop environment).run (session.requeue session.source arrivals) := by
  have diligent := handleInOrder_diligent environment events fits
  rw [run_bind_ok (diligent.run session session.source arrivals)]
  have works : Works session ((handleInOrder environment events before).run session).2 :=
    diligent.works session
  generalize ((handleInOrder environment events before).run session).2 = handled at works ⊢
  have runs : handled.isRunning = true := by
    rw [works]
    exact running
  have reads : handled.receiver = some id := by
    rw [works]
    exact holds.receiver
  have kept : handled.source = session.source := by rw [works]
  rw [← kept] at agree ⊢
  exact finishLoop_agrees environment runs reads agree

/-- Once no event of the editor can follow, a run ends after those that wait. -/
theorem run_over (holds : Holds session id events) (running : session.isRunning = true)
    (closed : id ∉ session.source.live) :
    (run environment).run session = (do
      handleInOrder environment events []
      finishLoop environment).run session := by
  have queued : session.arrivals.queue = [] ++ session.arrivals.queue := rfl
  have fits : TotalsFit [] := nofun
  obtain ⟨source, agree, found, runs⟩ :=
    run_reaches environment holds (.inl rfl) queued List.not_mem_nil fits
  rw [runs, turns_over environment found (agree.live ▸ closed)]
  exact finish_in_order environment holds running fits agree session.arrivals

/-- As long as events of the editor can follow, a run ends at the end of the conversation. -/
theorem run_disconnected (holds : Holds session id events) (running : session.isRunning = true)
    (live : id ∈ session.source.live) {before after : List TransportEvent}
    (queued : session.arrivals.queue = before ++ .disconnected :: after)
    (going : .disconnected ∉ before) (fits : TotalsFit before) :
    (run environment).run session = (do
      handleInOrder environment events before
      finishLoop environment).run
        (session.requeue session.source ⟨after, session.arrivals.ended⟩) := by
  obtain ⟨source, agree, found, runs⟩ :=
    run_reaches environment holds (.inr live) queued going fits
  rw [runs, turns_disconnected environment found (agree.live ▸ live) rfl]
  exact finish_in_order environment holds running fits agree _

/-- If the conversation does not end, a run ends when nothing can follow from the transport, and
otherwise it waits with both queues empty. -/
theorem run_exhausted (holds : Holds session id events) (running : session.isRunning = true)
    (live : id ∈ session.source.live) (going : .disconnected ∉ session.arrivals.queue)
    (fits : TotalsFit session.arrivals.queue) :
    (session.arrivals.ended = true → (run environment).run session = (do
      handleInOrder environment events session.arrivals.queue
      finishLoop environment).run
        (session.requeue session.source ⟨[], session.arrivals.ended⟩)) ∧
    (session.arrivals.ended = false → ∃ source, source.queueOf? id = some [] ∧
      EventHub.AgreeBut id source session.source ∧
      (run environment).run session = (do
        handleInOrder environment events session.arrivals.queue
        return .pending : Action LoopEnd).run
          (session.requeue source ⟨[], session.arrivals.ended⟩)) := by
  have queued : session.arrivals.queue = session.arrivals.queue ++ [] := (List.append_nil _).symm
  obtain ⟨source, agree, found, runs⟩ :=
    run_reaches environment holds (.inr live) queued going fits
  have last := turns_exhausted environment found (agree.live ▸ live) rfl 0
  constructor
  · intro ended
    rw [runs]
    refine (last.trans (if_pos ended)).trans ?_
    exact finish_in_order environment holds running fits agree _
  · intro waiting
    have more : ¬ session.arrivals.ended = true := by simp [waiting]
    have handles := (handleInOrder_diligent environment events fits).run session source
      ⟨[], session.arrivals.ended⟩
    refine ⟨source, found.queue, agree, ?_⟩
    rw [runs, run_bind_ok handles]
    exact last.trans (if_neg more)

/-- A sequence that ends with a stop does not leave the session running. -/
theorem sequence_not_running (events : List EditorEvent) {before : List TransportEvent}
    (fits : TotalsFit before) (session : Session) :
    ((do
      handleInOrder environment events before
      finishLoop environment).run session).2.isRunning = false := by
  rw [run_bind_ok ((handleInOrder_diligent environment events fits).completes session)]
  exact finishLoop_not_running environment _

/-- Whatever ends a run, the session does not run afterwards.

Proof: in each case in which a run ends it is a sequence that ends with a stop. -/
theorem run_not_running (holds : Holds session id events) (running : session.isRunning = true)
    (fits : TotalsFit session.arrivals.queue)
    (ends : ((run environment).run session).1 ≠ .ok .pending) :
    ((run environment).run session).2.isRunning = false := by
  by_cases live : id ∈ session.source.live
  · by_cases disconnects : .disconnected ∈ session.arrivals.queue
    · obtain ⟨before, after, queued, going⟩ := List.eq_append_cons_of_mem disconnects
      have fitting : TotalsFit before := fits.of_append queued
      rw [run_disconnected environment holds running live queued going fitting]
      exact sequence_not_running environment events fitting _
    · obtain ⟨finishes, waits⟩ := run_exhausted environment holds running live disconnects fits
      cases ended : session.arrivals.ended with
      | true =>
        rw [finishes ended]
        exact sequence_not_running environment events fits _
      | false =>
        obtain ⟨source, -, -, pends⟩ := waits ended
        have handles := (handleInOrder_diligent environment events fits).run session source
          ⟨[], session.arrivals.ended⟩
        rw [pends, run_bind_ok handles] at ends
        exact absurd rfl ends
  · rw [run_over environment holds running live]
    have queued : session.arrivals.queue = [] ++ session.arrivals.queue := rfl
    exact sequence_not_running environment events (fits.of_append queued) session

end Run

/-- A run of the loop in a running session, however it was reached, as long as no further event
arrives and no queued report has a total that exceeds its word. The queued events of the editor are
handled in their order, each with its failure ignored. If no more of them can follow, the session is
stopped then, and no event of the transport is handled. Otherwise the events of the transport are
handled in their order up to the end of the conversation, or all of them if nothing can follow:
messages are handled, a crash is shown, and other changes of the process are passed over. Then the
session is stopped, and the result is that of the stop. If neither source has ended, the run waits
with nothing queued. Whenever it ends, the session does not run any more.

Proof: every turn takes one event and handles it, and what it does would be the same if the other
events had been taken before. So the turns are the sequence, one stage after the other. The stop
drops the receiver, so what it held does not show afterwards. -/
theorem run_is_one_sequence_and_a_stop (options : Options) (happenings : List Happening)
    (running : (reached options happenings).isRunning = true)
    (fits : TotalsFit (reached options happenings).arrivals.queue) :
    let session := reached options happenings
    let outcome := (run environment).run session
    ∃ id events, Holds session id events ∧
      (id ∉ session.source.live →
        outcome = (do
          handleInOrder environment events []
          stop environment
          return .stopped : Action LoopEnd).run session) ∧
      (id ∈ session.source.live → ∀ before after,
        session.arrivals.queue = before ++ .disconnected :: after → .disconnected ∉ before →
        outcome = (do
          handleInOrder environment events before
          stop environment
          return .stopped : Action LoopEnd).run
            { session with arrivals := ⟨after, session.arrivals.ended⟩ }) ∧
      (id ∈ session.source.live → .disconnected ∉ session.arrivals.queue →
        (session.arrivals.ended = true → outcome = (do
          handleInOrder environment events session.arrivals.queue
          stop environment
          return .stopped : Action LoopEnd).run
            { session with arrivals := ⟨[], session.arrivals.ended⟩ }) ∧
        (session.arrivals.ended = false → ∃ source, source.queueOf? id = some [] ∧
          EventHub.AgreeBut id source session.source ∧
          outcome = (do
            handleInOrder environment events session.arrivals.queue
            return .pending : Action LoopEnd).run
              { session with source := source, arrivals := ⟨[], session.arrivals.ended⟩ })) ∧
      (outcome.1 ≠ .ok .pending → outcome.2.isRunning = false) := by
  intro session outcome
  obtain ⟨listens, id, reads, present⟩ := reached_attentive options happenings running
  obtain ⟨events, queue⟩ := EventHub.queueOf?_of_hasReceiver present
  have holds : Holds session id events := ⟨listens, reads, queue⟩
  refine ⟨id, events, holds, run_over environment holds running, ?_, ?_, ?_⟩
  · intro live before after queued going
    exact run_disconnected environment holds running live queued going (fits.of_append queued)
  · intro live going
    exact run_exhausted environment holds running live going fits
  · exact run_not_running environment holds running fits

/-- Events of both sources wait when the loop runs: an opened document, an outline, a crash, the end
of the conversation and a message behind it. All of them but the last are handled. -/
theorem crowded_queues_are_handled_to_the_end :
    let outline : TransportEvent := .message (.notification ⟨"tinymist/documentOutline", .null⟩)
    let session := reached (.inWorkspace (.fixed "tinymist") "/")
      [.performed hospitable .start, .emitted (.opened letter), .arrived outline,
        .arrived (.status .crashed), .arrived .disconnected, .arrived outline]
    session.isRunning = true ∧ TotalsFit session.arrivals.queue ∧ ∃ id,
      Holds session id [.opened letter] ∧ id ∈ session.source.live ∧
      (run hospitable).run session = (do
        handleInOrder hospitable [.opened letter] [outline, .status .crashed]
        stop hospitable
        return .stopped : Action LoopEnd).run
          { session with arrivals := ⟨[outline], session.arrivals.ended⟩ } ∧
      ((run hospitable).run session).2.isRunning = false := by
  intro outline session
  have running : session.isRunning = true := by decide +kernel
  have queued :
      session.arrivals = ⟨[outline, .status .crashed, .disconnected, outline], false⟩ := by
    decide +kernel
  have fits : TotalsFit session.arrivals.queue := by
    intro message member
    rw [queued] at member
    obtain rfl : .notification ⟨"tinymist/documentOutline", .null⟩ = message := by
      simpa [outline, eq_comm] using member
    have none : Rpc.Message.compileStatus?
        (.notification ⟨"tinymist/documentOutline", .null⟩) = none := by decide +kernel
    simp [none]
  obtain ⟨id, events, holds, -, disconnected, -, ends⟩ :=
    run_is_one_sequence_and_a_stop hospitable _ _ running fits
  have reads : session.receiver = some 0 := by decide +kernel
  obtain rfl : 0 = id := Option.some.inj (reads.symm.trans holds.receiver)
  have waits : session.source.queueOf? 0 = some [.opened letter] := by decide +kernel
  obtain rfl : [.opened letter] = events := Option.some.inj (waits.symm.trans holds.queue)
  have live : 0 ∈ session.source.live := by decide +kernel
  have stopped : ((run hospitable).run session).1 = .ok .stopped := by decide +kernel
  have result := disconnected live [outline, .status .crashed] [outline] (by rw [queued]; rfl)
    (by simp [outline])
  exact ⟨running, fits, 0, holds, live, result, ends (by rw [stopped]; simp)⟩

end Session

end LanguageClient
