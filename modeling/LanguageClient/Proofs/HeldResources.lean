import LanguageClient.Proofs.LoopOrder
import LanguageClient.Proofs.StartUpTraffic

/-!
# What a running session holds

A session runs exactly while it reads the events of the editor, and exactly while it has a
subscription at their source. It has one then and none otherwise, and while it runs it also listens
to the transport. So the loop is refused exactly when the session does not run.

The source may be shared. Others subscribe to it and dispose their handles, read from their
receivers and drop them; none of this concerns the subscription of the session. Only a source that
ends by itself takes the subscription from a running session, which then still reads what it was
sent.
-/

namespace LanguageClient.Session

variable (environment : Environment)

section Start

/-- What the session holds of its source stays, and so does the source. -/
structure SameHold (before after : Session) : Prop where
  source : after.source = before.source
  subscriptions : after.subscriptions = before.subscriptions
  receiver : after.receiver = before.receiver

instance : IsPreorder Session SameHold where
  refl := fun _ => ⟨rfl, rfl, rfl⟩
  trans := fun _ _ _ first second =>
    ⟨second.source.trans first.source, second.subscriptions.trans first.subscriptions,
      second.receiver.trans first.receiver⟩

/-- The session has one subscription more, and its receiver is the one that is read. -/
structure Subscribed (before after : Session) : Prop where
  source : after.source = before.source.subscribe.2
  subscriptions : after.subscriptions = before.subscriptions ++ [before.source.subscribe.1]
  receiver : after.receiver = some before.source.subscribe.1.id

/-- The session subscribed at most once. -/
def AtMostSubscribed (before after : Session) : Prop :=
  SameHold before after ∨ Subscribed before after

/-- What happens before a subscription does not matter. -/
theorem SameHold.then {first second third : Session} (same : SameHold first second)
    (subscribed : AtMostSubscribed second third) : AtMostSubscribed first third := by
  obtain ⟨source, subscriptions, receiver⟩ := same
  obtain still | more := subscribed
  · exact .inl (trans_of SameHold ⟨source, subscriptions, receiver⟩ still)
  · refine .inr ⟨?_, ?_, ?_⟩
    · rw [more.source, source]
    · rw [more.subscriptions, subscriptions, source]
    · rw [more.receiver, source]

/-- Work leaves what the session holds. -/
theorem Works.sameHold {before after : Session} (works : Works before after) :
    SameHold before after := by
  rw [works]
  exact ⟨rfl, rfl, rfl⟩

/-- What is done over the connection leaves what the session holds. -/
theorem overConnection_sameHold {α : Type} (action : Connection.Action α) :
    Leads SameHold (overConnection action) :=
  (overConnection_works action).mono fun _ _ => Works.sameHold

/-- Launching the server leaves what the session holds. -/
theorem launch_sameHold (binary : String) : Leads SameHold (launch environment binary) := by
  refine .bind (overConnection_sameHold _) fun _ => ?_
  refine .bind (.modify fun _ => ⟨rfl, rfl, rfl⟩) fun _ => .bind .get fun _ => ?_
  exact .bind (overConnection_sameHold _) fun _ => .modify fun _ => ⟨rfl, rfl, rfl⟩

/-- Taking leave of the server leaves what the session holds. -/
theorem takeLeave_sameHold : Leads SameHold (takeLeave environment) := by
  refine .bind (.bind (attempt_leads (overConnection_sameHold _)) fun result => ?_) fun _ => ?_
  · split
    · exact ignoring_leads (overConnection_sameHold _)
    · exact .pure _
  · exact .bind (overConnection_sameHold _) fun _ => .modify fun _ => ⟨rfl, rfl, rfl⟩

/-- The steps of a start once the server is launched subscribe at most once. -/
theorem converse_subscribes (settled : Session) :
    Leads AtMostSubscribed (converse environment settled) := by
  refine .bind_comp (overConnection_sameHold _) (fun _ session => ?_) SameHold.then .inl
  have works := bringUpToDate_works environment (subscribe.run session).2
  have same := works.sameHold
  exact .inr ⟨same.source, same.subscriptions, same.receiver⟩

/-- The steps of a start subscribe at most once. -/
theorem bringUp_subscribes : Leads AtMostSubscribed (bringUp environment) := by
  intro session
  have settles : SameHold session ((resolveSettings environment).run session).2 := ⟨rfl, rfl, rfl⟩
  rw [run_bringUp environment rfl]
  split
  · exact .inl settles
  · rename_i binary found
    have launched := Leads.bind_comp (launch_sameHold environment binary)
      (fun _ => converse_subscribes environment ((resolveSettings environment).run session).2)
      SameHold.then Or.inl
    exact settles.then (launched _)

/-- What a start of an idle session leaves: a session that runs, listens and has subscribed, or one
whose start was undone before or after it subscribed. -/
theorem start_leaves {session : Session} (idle : session.lifecycle = .idle) :
    (∃ after, (start environment).run session = (.ok (), after) ∧ after.lifecycle = .running ∧
      after.listening = true ∧ Subscribed session after) ∨
    ∃ error left, (start environment).run session = (.error (.failed error), left.undone error) ∧
      AtMostSubscribed session left := by
  have subscribes := bringUp_subscribes environment session
  cases outcome : (bringUp environment).run session with
  | mk result after =>
    rw [outcome] at subscribes
    cases result with
    | ok done =>
      have completed := start_completed environment idle outcome
      have started := start_started environment idle
      rw [completed] at started
      refine .inl ⟨after, completed, ?_⟩
      cases started with
      | completed launched running subscriptions receiver =>
        refine ⟨running, (bringUp_attends environment outcome).listening, ?_⟩
        obtain same | subscribed := subscribes
        · have kept : after.subscriptions = session.subscriptions := same.subscriptions
          rw [kept] at subscriptions
          simp at subscriptions
        · exact subscribed
    | error halt =>
      cases halt with
      | overflow => exact absurd (congrArg Prod.fst outcome) (bringUp_avoids environment session)
      | failed error => exact .inr ⟨error, after, start_undone environment idle outcome, subscribes⟩

end Start

section Equipment

variable (others : List Nat)

/-- The live subscriptions at the source that belong to nobody else. -/
def own (session : Session) : List Nat := session.source.live.filter fun id => id ∉ others

/-- What a running session holds: a receiver, the subscription to it, and the events of the
transport. Its subscription lives, unless the source ended it. -/
structure Holding (severed : Prop) (session : Session) (id : Nat) : Prop where
  listening : session.listening = true
  receiver : session.receiver = some id
  subscriptions : session.subscriptions = [⟨id, true⟩]
  present : session.source.hasReceiver id = true
  issued : id < session.source.next
  foreign : id ∉ others
  whole : ¬ severed → session.own others = [id]
  cut : severed → session.own others = []

/-- What a session holds is what it needs: everything while it runs, and nothing otherwise. -/
structure Equipped (severed : Prop) (session : Session) : Prop where
  issued : ∀ other ∈ others, other < session.source.next
  unsevered : session.lifecycle = .idle → ¬ severed
  halted : session.isRunning = false →
    session.receiver = none ∧ session.subscriptions = [] ∧ session.own others = []
  running : session.isRunning = true → ∃ id, Holding others severed session id

variable {others} {severed : Prop} {before after : Session}

/-- Only what belongs to the session matters. -/
theorem Equipped.transfer (equipped : Equipped others severed before)
    (lifecycle : after.lifecycle = before.lifecycle)
    (listening : after.listening = before.listening)
    (subscriptions : after.subscriptions = before.subscriptions)
    (receiver : after.receiver = before.receiver) (next : after.source.next = before.source.next)
    (own : after.own others = before.own others)
    (present : ∀ id ∉ others, after.source.hasReceiver id = before.source.hasReceiver id) :
    Equipped others severed after := by
  have runs : after.isRunning = before.isRunning := by rw [isRunning, lifecycle, isRunning]
  refine ⟨?_, ?_, ?_, ?_⟩
  · rw [next]
    exact equipped.issued
  · rw [lifecycle]
    exact equipped.unsevered
  · rw [runs, receiver, subscriptions, own]
    exact equipped.halted
  · rw [runs]
    intro running
    obtain ⟨id, holding⟩ := equipped.running running
    refine ⟨id, listening.trans holding.listening, receiver.trans holding.receiver,
      subscriptions.trans holding.subscriptions, ?_, ?_, holding.foreign, ?_, ?_⟩
    · rw [present id holding.foreign]
      exact holding.present
    · rw [next]
      exact holding.issued
    · rw [own]
      exact holding.whole
    · rw [own]
      exact holding.cut

/-- A live subscription that belongs to nobody else is held by the session. -/
theorem Equipped.holding_of_own (equipped : Equipped others severed before) {id : Nat}
    (mine : id ∈ before.own others) : Holding others severed before id := by
  cases running : before.isRunning with
  | false =>
    rw [(equipped.halted running).2.2] at mine
    cases mine
  | true =>
    obtain ⟨held, holding⟩ := equipped.running running
    by_cases cut : severed
    · rw [holding.cut cut] at mine
      cases mine
    · rw [holding.whole cut, List.mem_singleton] at mine
      exact mine ▸ holding

/-- The numbers of all live subscriptions were given out. -/
theorem Equipped.live_lt (equipped : Equipped others severed before) {id : Nat}
    (live : id ∈ before.source.live) : id < before.source.next := by
  by_cases other : id ∈ others
  · exact equipped.issued id other
  · exact (equipped.holding_of_own (List.mem_filter.mpr ⟨live, by simpa using other⟩)).issued

/-- What is equipped stays equipped. -/
def StaysEquipped (others : List Nat) (severed : Prop) (before after : Session) : Prop :=
  Equipped others severed before → Equipped others severed after

instance : IsPreorder Session (StaysEquipped others severed) where
  refl := fun _ => id
  trans := fun _ _ _ first second => second ∘ first

/-- Whatever disturbs nothing leaves the session equipped. -/
theorem Undisturbed.staysEquipped (undisturbed : Undisturbed before after) :
    StaysEquipped others severed before after := fun equipped =>
  equipped.transfer undisturbed.lifecycle undisturbed.listening undisturbed.subscriptions
    undisturbed.receiver undisturbed.next (by rw [own, undisturbed.live, own])
    fun id _ => undisturbed.present id

/-- The subscriptions of nobody else, once the work is ended: none of those that the session
held. -/
theorem mem_own_released {session : Session} {id : Nat} :
    id ∈ session.released.own others ↔
      id ∈ session.own others ∧ ⟨id, true⟩ ∉ session.subscriptions := by
  rw [own, List.mem_filter, mem_released_live, own, List.mem_filter]
  exact and_right_comm

/-- Ending the work gives out no numbers. -/
theorem released_next (session : Session) : session.released.source.next = session.source.next := by
  rw [released, Subscription.disposeAll_eq]
  cases session.receiver <;> rfl

/-- Once the work is ended a session is equipped, provided that it held whatever subscription
belonged to nobody else. -/
theorem equipped_of_released {session : Session}
    (issued : ∀ other ∈ others, other < session.source.next)
    (held : ∀ id ∈ session.own others, ⟨id, true⟩ ∈ session.subscriptions)
    (stopped : after.lifecycle = .stopped) (same : SameHold session.released after) :
    Equipped others severed after := by
  have halted : after.isRunning = false := by
    rw [isRunning, stopped]
    rfl
  refine ⟨?_, by simp [stopped], fun _ => ⟨same.receiver, same.subscriptions, ?_⟩, by simp [halted]⟩
  · rw [same.source, released_next]
    exact issued
  · rw [own, same.source, List.eq_nil_iff_forall_not_mem]
    intro id mine
    obtain ⟨before, free⟩ := mem_own_released.mp mine
    exact free (held id before)

/-- A stop leaves the session equipped. -/
theorem stop_staysEquipped : Leads (StaysEquipped others severed) (stop environment) := by
  intro session equipped
  cases running : session.isRunning with
  | false =>
    rw [run_stop_still environment running]
    exact equipped
  | true =>
    rw [run_stop environment running]
    refine equipped_of_released equipped.issued (fun id mine => ?_)
      (takeLeave_calls environment _).1 (takeLeave_sameHold environment _)
    rw [(equipped.holding_of_own mine).subscriptions]
    exact List.mem_singleton_self _

/-- A subscription takes the next number. -/
theorem Subscribed.next (subscribed : Subscribed before after) :
    after.source.next = before.source.next + 1 := by
  rw [subscribed.source]
  rfl

/-- The new subscription belongs to nobody else. -/
theorem Subscribed.own (subscribed : Subscribed before after)
    (issued : ∀ other ∈ others, other < before.source.next) :
    after.own others = before.own others ++ [before.source.next] := by
  have mine : before.source.next ∉ others := fun member =>
    absurd (issued _ member) (Nat.lt_irrefl _)
  rw [Session.own, subscribed.source]
  change (before.source.live ++ [before.source.next]).filter _ = _
  rw [List.filter_append, Session.own]
  simp [mine]

/-- A session that was equipped and idle is equipped when it runs, listens and has subscribed. -/
theorem Subscribed.equipped (subscribed : Subscribed before after)
    (equipped : Equipped others severed before) (idle : before.lifecycle = .idle)
    (running : after.lifecycle = .running) (listening : after.listening = true) :
    Equipped others severed after := by
  have halted : before.isRunning = false := by
    rw [isRunning, idle]
    rfl
  obtain ⟨-, unsubscribed, none⟩ := equipped.halted halted
  have whole := subscribed.own equipped.issued
  rw [none] at whole
  have runs : after.isRunning = true := by
    rw [isRunning, running]
    rfl
  have unsevered := equipped.unsevered idle
  have next := subscribed.next
  refine ⟨fun other member => ?_, by simp [running], by simp [runs],
    fun _ => ⟨before.source.next, listening, subscribed.receiver, ?_, ?_, ?_, ?_, fun _ => whole,
      fun severed => absurd severed unsevered⟩⟩
  · rw [next]
    exact Nat.lt_succ_of_lt (equipped.issued other member)
  · rw [subscribed.subscriptions, unsubscribed]
    rfl
  · rw [subscribed.source]
    exact before.source.hasReceiver_subscribe
  · rw [next]
    exact Nat.lt_succ_self _
  · exact fun member => absurd (equipped.issued _ member) (Nat.lt_irrefl _)

/-- A start leaves the session equipped: one that succeeds gave it what it needs, and one that fails
took it back. -/
theorem start_staysEquipped : Leads (StaysEquipped others severed) (start environment) := by
  intro session equipped
  by_cases idle : session.lifecycle = .idle
  · have halted : session.isRunning = false := by
      rw [isRunning, idle]
      rfl
    obtain ⟨unread, unsubscribed, none⟩ := equipped.halted halted
    obtain ⟨after, started, running, listening, subscribed⟩ | ⟨error, left, failed, attempted⟩ :=
      start_leaves environment idle
    · rw [started]
      exact subscribed.equipped equipped idle running listening
    · rw [failed]
      refine equipped_of_released ?_ ?_ rfl ⟨rfl, rfl, rfl⟩
      · intro other member
        refine Nat.lt_of_lt_of_le (equipped.issued other member) ?_
        obtain same | subscribed := attempted
        · exact Nat.le_of_eq (congrArg EventHub.next same.source).symm
        · exact Nat.le_of_lt (subscribed.next ▸ Nat.lt_succ_self _)
      · intro id mine
        obtain same | subscribed := attempted
        · rw [own, same.source, ← own, none] at mine
          cases mine
        · rw [subscribed.own equipped.issued, none] at mine
          rw [subscribed.subscriptions, List.mem_singleton.mp mine]
          exact List.mem_append_right _ List.mem_cons_self
  · rw [run_start, if_neg idle]
    exact equipped

/-- Any number of turns of the loop leave the session equipped. -/
theorem turns_staysEquipped (count : Nat) :
    Leads (StaysEquipped others severed) (turns environment count) := by
  have turned : Leads (StaysEquipped others severed) (turn environment) :=
    (turn_undisturbed environment).mono fun _ _ => Undisturbed.staysEquipped
  induction count with
  | zero => exact .pure _
  | succ count inductionHypothesis =>
    refine .bind turned fun pace => ?_
    cases pace with
    | proceed => exact inductionHypothesis
    | wait => exact .pure _
    | finish => exact .bind (stop_staysEquipped environment) fun _ => .pure _

/-- Every operation leaves the session equipped. -/
theorem perform_staysEquipped (operation : Operation) :
    Leads (StaysEquipped others severed) (perform environment operation) := by
  have works {before after : Session} (works : Works before after) :
      StaysEquipped others severed before after := works.undisturbed.staysEquipped
  have launched (kind : Preview.Kind) :
      Leads (StaysEquipped others severed) (launchPreview environment kind) :=
    (launchPreview_works environment kind).mono fun _ _ => works
  cases operation with
  | start => exact (start_staysEquipped environment).bind_pure _
  | stop => exact (stop_staysEquipped environment).bind_pure _
  | run =>
    refine .bind (.bind .get fun session => turns_staysEquipped environment _) fun loopEnd => ?_
    cases loopEnd with
    | stopped => exact .pure _
    | pending => exact .pure _
  | _ =>
    exact (works_handling.mono fun _ _ => works).performs environment launched (by simp) (by simp)
      (by simp)

/-- An event of the editor finds the receiver of the session, so that its subscription lives on. -/
theorem emit_staysEquipped (session : Session) (event : EditorEvent) :
    StaysEquipped others severed session (session.emit event) := by
  intro equipped
  refine equipped.transfer rfl rfl rfl rfl rfl ?_ fun id _ =>
    session.source.hasReceiver_emit event id
  change (session.source.live.filter session.source.hasReceiver).filter _ = _
  rw [List.filter_comm, ← own, List.filter_eq_self]
  exact fun id mine => (equipped.holding_of_own mine).present

/-- Whatever happens leaves the session equipped, as long as the source does not end. -/
theorem happen_staysEquipped (session : Session) {happening : Happening}
    (lasts : happening ≠ .sourceClosed) :
    StaysEquipped others severed session (session.happen happening) := by
  cases happening with
  | performed environment operation => exact perform_staysEquipped environment operation session
  | turned environment => exact (turn_undisturbed environment session).staysEquipped
  | emitted event => exact emit_staysEquipped session event
  | sourceClosed => exact absurd rfl lasts
  | _ => exact fun equipped => equipped.transfer rfl rfl rfl rfl rfl rfl fun _ _ => rfl

/-- A source that ends takes the subscription of a session that runs. -/
theorem Equipped.close {session : Session} (equipped : Equipped others severed session) :
    Equipped others (severed ∨ session.isRunning = true) (session.happen .sourceClosed) := by
  refine ⟨equipped.issued, fun idle => ?_, fun halted => ?_, fun running => ?_⟩
  · have halted : session.isRunning = false := by
      rw [isRunning, show session.lifecycle = .idle from idle]
      rfl
    simpa [halted] using equipped.unsevered idle
  · obtain ⟨unread, unsubscribed, -⟩ := equipped.halted halted
    exact ⟨unread, unsubscribed, rfl⟩
  · obtain ⟨id, holding⟩ := equipped.running running
    exact ⟨id, holding.listening, holding.receiver, holding.subscriptions, holding.present,
      holding.issued, holding.foreign, fun whole => absurd (.inr running) whole, fun _ => rfl⟩

/-- A new subscription of someone else is not one of the session. -/
theorem Equipped.joined {session : Session} (equipped : Equipped others severed session) :
    Equipped (others ++ [session.source.next]) severed
      { session with source := session.source.subscribe.2 } := by
  let joined : Session := { session with source := session.source.subscribe.2 }
  have older {id : Nat} (issued : id < session.source.next) :
      id ∈ others ++ [session.source.next] ↔ id ∈ others := by
    simp [Nat.ne_of_lt issued]
  have mine : joined.own (others ++ [session.source.next]) = session.own others := by
    change (session.source.live ++ [session.source.next]).filter _ = _
    rw [List.filter_append, own]
    have new :
        [session.source.next].filter (fun id => id ∉ others ++ [session.source.next]) = [] := by
      simp
    rw [new, List.append_nil]
    refine List.filter_congr fun id live => ?_
    simp only [older (equipped.live_lt live)]
  refine ⟨fun other member => ?_, equipped.unsevered, fun halted => ?_, fun running => ?_⟩
  · obtain old | new := List.mem_append.mp member
    · exact Nat.lt_succ_of_lt (equipped.issued other old)
    · rw [List.mem_singleton.mp new]
      exact Nat.lt_succ_self _
  · rw [mine]
    exact equipped.halted halted
  · obtain ⟨id, holding⟩ := equipped.running running
    refine ⟨id, holding.listening, holding.receiver, holding.subscriptions, ?_,
      Nat.lt_succ_of_lt holding.issued, mt (older holding.issued).mp holding.foreign, ?_, ?_⟩
    · have present := holding.present
      simp only [EventHub.hasReceiver, EventHub.subscribe, List.any_append] at present ⊢
      rw [present, Bool.true_or]
    · rw [mine]
      exact holding.whole
    · rw [mine]
      exact holding.cut

/-- Disposing a handle of someone else ends no subscription of the session. -/
theorem Equipped.left {session : Session} (equipped : Equipped others severed session)
    {handle : Subscription} (foreign : handle.id ∈ others) :
    Equipped others severed { session with source := (handle.dispose session.source).2 } := by
  rw [Subscription.dispose_snd]
  refine equipped.transfer rfl rfl rfl rfl rfl ?_ fun _ _ => rfl
  change (session.source.live.filter _).filter _ = session.source.live.filter _
  rw [List.filter_comm, List.filter_eq_self]
  intro id mine
  have free : id ∉ others := by simpa using (List.mem_filter.mp mine).2
  have different : (⟨id, true⟩ : Subscription) ≠ handle := by
    rintro rfl
    exact free foreign
  simpa using different

/-- What is taken from a receiver ends no subscription of the session. -/
theorem Equipped.took {session : Session} (equipped : Equipped others severed session)
    (taker : Nat) :
    Equipped others severed { session with source := (session.source.receive taker).2 } := by
  obtain ⟨next, live⟩ := session.source.receive_frame taker
  exact equipped.transfer rfl rfl rfl rfl next (congrArg (List.filter _) live) fun id _ =>
    session.source.hasReceiver_receive taker id

/-- A receiver of someone else is dropped without that of the session. -/
theorem Equipped.dropped {session : Session} (equipped : Equipped others severed session)
    {gone : Nat} (foreign : gone ∈ others) :
    Equipped others severed { session with source := session.source.dropReceiver gone } := by
  refine equipped.transfer rfl rfl rfl rfl rfl rfl fun id free => ?_
  have different : id ≠ gone := fun same => free (same ▸ foreign)
  rw [EventHub.hasReceiver_eq_isSome, EventHub.hasReceiver_eq_isSome,
    EventHub.queueOf?_dropReceiver, if_neg different]

end Equipment

section Refusal

/-- What disturbs nothing leaves a session attending to its events. -/
theorem Undisturbed.attends {before after : Session} (undisturbed : Undisturbed before after)
    (attends : Attends before) : Attends after := by
  obtain ⟨listening, id, reads, present⟩ := attends
  exact ⟨undisturbed.listening.trans listening, id, undisturbed.receiver.trans reads,
    (undisturbed.present id).trans present⟩

/-- What is ignored does not fail with an error. -/
theorem ignoring_avoids {α : Type} (action : Action α) (error : ClientError) :
    Avoids (.failed error) (ignoring action) := by
  intro session
  have attempted := run_attempt action session
  cases outcome : action.run session with
  | mk result after =>
    rw [outcome] at attempted
    cases result with
    | ok value =>
      rw [ignoring, run_bind_ok attempted]
      intro impossible
      cases impossible
    | error halt =>
      cases halt with
      | failed cause =>
        rw [ignoring, run_bind_ok attempted]
        intro impossible
        cases impossible
      | overflow =>
        rw [ignoring, run_bind_error attempted]
        intro impossible
        cases impossible

/-- Handling a message does not fail with an error. -/
theorem handleMessage_avoids (message : Rpc.Message) (error : ClientError) :
    Avoids (.failed error) (handleMessage environment message) := by
  cases message with
  | request call => exact .bind .get fun _ => ignoring_avoids _ error
  | response answer => exact .pure _
  | notification notice =>
    simp only [handleMessage, handleNotification]
    split
    · rename_i notification _
      cases notification with
      | compileStatus status =>
        simp only [handleDecoded]
        split
        · exact .modify _
        · exact .throw (by simp)
      | scrollSource scroll =>
        simp only [handleDecoded]
        split
        · exact ignoring_avoids _ error
        · exact .pure _
      | documentOutline outline => exact .modify _
      | previewDispose dispose =>
        refine .bind (fun session => ?_) fun _ => .pure _
        rw [disposeTask_run]
        intro impossible
        cases impossible
      | other method => exact .pure _
    · exact .pure _

/-- Handling an event of the transport does not fail with an error. -/
theorem handleArrival_avoids (arrival : TransportEvent) (error : ClientError) :
    Avoids (.failed error) (handleArrival environment arrival) := by
  cases arrival with
  | message message =>
    exact .bind (handleMessage_avoids environment message error) fun _ => .pure _
  | status status =>
    cases status with
    | crashed => exact .bind (.modify _) fun _ => .pure _
    | _ => exact .pure _
  | disconnected => exact .pure _

/-- What a session that attends to its events finds next is no failure. -/
theorem next_found {session : Session} (attends : Attends session) :
    ∃ found after, next.run session = (.ok found, after) := by
  obtain ⟨listening, id, reads, present⟩ := attends
  obtain ⟨events, queue⟩ := EventHub.queueOf?_of_hasReceiver present
  rw [run_next ⟨listening, reads, queue⟩]
  obtain ⟨received, source⟩ := session.source.receive id
  cases received with
  | event event => exact ⟨_, _, rfl⟩
  | empty =>
    dsimp only
    rw [nextArrival, run_get_bind]
    split
    · exact ⟨_, _, rfl⟩
    · exact ⟨_, _, rfl⟩
  | closed => exact ⟨_, _, rfl⟩
  | noReceiver => exact ⟨_, _, rfl⟩

/-- A stop is never refused. -/
theorem stop_avoids : Avoids (.failed .notRunning) (stop environment) := by
  intro session
  cases running : session.isRunning with
  | false =>
    rw [run_stop_still environment running]
    intro impossible
    cases impossible
  | true =>
    obtain ⟨connection, dismissed, -⟩ := run_dismiss environment session.released
    rw [run_stop environment running, takeLeave, run_bind_ok dismissed, run_bind,
      run_overConnection]
    cases (Connection.stop environment.peer).run connection with
    | mk result after =>
      cases result with
      | ok done =>
        intro impossible
        cases impossible
      | error cause =>
        intro impossible
        cases impossible

/-- A session that attends to its events is not refused a turn. -/
theorem turn_avoids {session : Session} (attends : Attends session) :
    ((turn environment).run session).1 ≠ .error (.failed .notRunning) := by
  obtain ⟨found, after, taken⟩ := next_found attends
  rw [turn, run_bind_ok taken]
  cases found with
  | editor event => exact Avoids.bind (ignoring_avoids _ _) (fun _ => .pure _) after
  | server event => exact handleArrival_avoids environment event .notRunning after
  | editorEnded =>
    intro impossible
    cases impossible
  | serverEnded =>
    intro impossible
    cases impossible
  | nothing =>
    intro impossible
    cases impossible

/-- A session that attends to its events is not refused its turns. -/
theorem turns_avoid {session : Session} (attends : Attends session) (count : Nat) :
    ((turns environment count).run session).1 ≠ .error (.failed .notRunning) := by
  induction count generalizing session with
  | zero =>
    intro impossible
    cases impossible
  | succ count inductionHypothesis =>
    have taken := turn_avoids environment attends
    have undisturbed := turn_undisturbed environment session
    cases turned : (turn environment).run session with
    | mk result after =>
      rw [turned] at taken undisturbed
      cases result with
      | error halt =>
        rw [turns, run_bind_error turned]
        exact fun same => taken (congrArg Except.error (Except.error.inj same))
      | ok pace =>
        rw [turns, run_bind_ok turned]
        cases pace with
        | proceed => exact inductionHypothesis (undisturbed.attends attends)
        | wait =>
          intro impossible
          cases impossible
        | finish => exact Avoids.bind (stop_avoids environment) (fun _ => .pure _) after

end Refusal

/-- A session, and the handles that others have of subscriptions at its source. -/
structure Shared where
  session : Session
  handles : List Subscription

/-- Something that happens to a session, or that others do at its source. Their handles are numbered
in the order in which they got them. -/
inductive Incident where
  | happened (happening : Happening)
  /-- Someone else subscribes. -/
  | joined
  /-- Another handle is disposed. -/
  | left (number : Nat)
  /-- The receiver of another handle takes an event. -/
  | took (number : Nat)
  /-- The receiver of another handle is dropped. -/
  | dropped (number : Nat)

namespace Shared

/-- The subscriptions of the others. -/
def others (shared : Shared) : List Nat := shared.handles.map (·.id)

/-- What an incident makes of a session and the handles of the others. -/
def meet (shared : Shared) : Incident → Shared
  | .happened happening => { shared with session := shared.session.happen happening }
  | .joined =>
    let (handle, source) := shared.session.source.subscribe
    ⟨{ shared.session with source := source }, shared.handles ++ [handle]⟩
  | .left number =>
    match shared.handles[number]? with
    | none => shared
    | some handle =>
      let (disposed, source) := handle.dispose shared.session.source
      ⟨{ shared.session with source := source }, shared.handles.set number disposed⟩
  | .took number =>
    match shared.handles[number]? with
    | none => shared
    | some handle =>
      { shared with session :=
        { shared.session with source := (shared.session.source.receive handle.id).2 } }
  | .dropped number =>
    match shared.handles[number]? with
    | none => shared
    | some handle =>
      { shared with session :=
        { shared.session with source := shared.session.source.dropReceiver handle.id } }

/-- What incidents make of a session that was not started, at a source that nobody subscribed to. -/
def after (options : Options) (incidents : List Incident) : Shared :=
  incidents.foldl meet ⟨fresh options, []⟩

/-- One incident more. -/
theorem after_snoc (options : Options) (incidents : List Incident) (incident : Incident) :
    after options (incidents ++ [incident]) = (after options incidents).meet incident := by
  simp [after]

/-- The source ended while the session ran. -/
def Severed (options : Options) (incidents : List Incident) : Prop :=
  Occurred (fun earlier incident => incident = .happened .sourceClosed ∧
    (after options earlier).session.isRunning = true) incidents

/-- A handle that is disposed is still of the same subscription. -/
theorem others_left {handles : List Subscription} {number : Nat} {handle disposed : Subscription}
    (found : handles[number]? = some handle) (same : disposed.id = handle.id) :
    (handles.set number disposed).map (·.id) = handles.map (·.id) := by
  obtain ⟨inside, rfl⟩ := List.getElem?_eq_some_iff.mp found
  have bounded : number < (handles.map (·.id)).length := by simpa using inside
  have own : handles[number].id = (handles.map (·.id))[number] := by simp
  rw [List.map_set, same, own, List.set_getElem_self]

/-- Incidents leave the session equipped, as long as the source does not end. -/
theorem meet_equipped {shared : Shared} {severed : Prop}
    (equipped : Equipped shared.others severed shared.session) {incident : Incident}
    (lasts : incident ≠ .happened .sourceClosed) :
    Equipped (shared.meet incident).others severed (shared.meet incident).session := by
  have foreign {number : Nat} {handle : Subscription}
      (found : shared.handles[number]? = some handle) : handle.id ∈ shared.others :=
    List.mem_map_of_mem (List.mem_of_getElem? found)
  cases incident with
  | happened happening =>
    exact happen_staysEquipped shared.session (fun same => lasts (congrArg _ same)) equipped
  | joined =>
    have joined := equipped.joined
    rwa [others, meet, List.map_append]
  | left number =>
    cases found : shared.handles[number]? with
    | none => simpa only [meet, found] using equipped
    | some handle =>
      have same : (handle.dispose shared.session.source).1.id = handle.id := by
        rw [handle.dispose_fst]
      simp only [meet, found, others, others_left found same]
      exact equipped.left (foreign found)
  | took number =>
    cases found : shared.handles[number]? with
    | none => simpa only [meet, found] using equipped
    | some handle =>
      simp only [meet, found]
      exact equipped.took handle.id
  | dropped number =>
    cases found : shared.handles[number]? with
    | none => simpa only [meet, found] using equipped
    | some handle =>
      simp only [meet, found]
      exact equipped.dropped (foreign found)

/-- Whatever happens, the session is equipped. -/
theorem after_equipped (options : Options) (incidents : List Incident) :
    Equipped (after options incidents).others (Severed options incidents)
      (after options incidents).session := by
  induction incidents using List.reverseRecOn with
  | nil =>
    refine ⟨nofun, fun _ => ?_, fun _ => ⟨rfl, rfl, rfl⟩, nofun⟩
    rintro ⟨before, incident, rest, split, -⟩
    simp at split
  | append_singleton incidents incident inductionHypothesis =>
    have severed : Severed options (incidents ++ [incident]) ↔ Severed options incidents ∨
        incident = .happened .sourceClosed ∧ (after options incidents).session.isRunning = true :=
      occurred_snoc
    rw [after_snoc, propext severed]
    by_cases lasts : incident = .happened .sourceClosed
    · subst lasts
      rw [and_iff_right rfl]
      exact inductionHypothesis.close
    · simpa [lasts] using meet_equipped inductionHypothesis lasts

/-- Whatever happens, and whatever others do at its source, a session runs exactly while it holds a
receiver for the events of the editor. Unless the source itself ended it, the session then has
exactly one live subscription there, the one of its receiver; otherwise it has none. While it runs
it listens to the transport, and the loop is refused exactly when it does not run. -/
theorem running_iff_resources_are_held (options : Options) (incidents : List Incident) :
    let shared := after options incidents
    let session := shared.session
    (session.isRunning = true ↔ session.receiver.isSome = true) ∧
    (¬ Severed options incidents →
      (session.isRunning = true ↔ ∃ id, session.own shared.others = [id])) ∧
    (session.isRunning = false ∨ Severed options incidents → session.own shared.others = []) ∧
    (∀ id ∈ session.own shared.others,
      session.receiver = some id ∧ session.subscriptions = [⟨id, true⟩]) ∧
    (session.isRunning = true → session.listening = true) ∧
    ∀ environment, ((run environment).run session).1 = .error (.failed .notRunning) ↔
      session.isRunning = false := by
  intro shared session
  have equipped : Equipped shared.others (Severed options incidents) session :=
    after_equipped options incidents
  have runs (never : session.isRunning ≠ false) : session.isRunning = true := by simpa using never
  refine ⟨⟨fun running => ?_, fun reads => runs fun halted => ?_⟩, fun whole =>
    ⟨fun running => ?_, fun ⟨id, one⟩ => runs fun halted => ?_⟩, ?_, fun id mine => ?_,
    fun running => ?_, fun environment => ⟨fun refused => ?_, fun halted => ?_⟩⟩
  · obtain ⟨id, holding⟩ := equipped.running running
    rw [holding.receiver]
    rfl
  · rw [(equipped.halted halted).1] at reads
    cases reads
  · obtain ⟨id, holding⟩ := equipped.running running
    exact ⟨id, holding.whole whole⟩
  · rw [(equipped.halted halted).2.2] at one
    cases one
  · rintro (halted | severed)
    · exact (equipped.halted halted).2.2
    · cases running : session.isRunning with
      | false => exact (equipped.halted running).2.2
      | true =>
        obtain ⟨id, holding⟩ := equipped.running running
        exact holding.cut severed
  · have holding := equipped.holding_of_own mine
    exact ⟨holding.receiver, holding.subscriptions⟩
  · obtain ⟨id, holding⟩ := equipped.running running
    exact holding.listening
  · -- A session that runs attends to its events, and is not refused any turn.
    by_contra running
    obtain ⟨id, holding⟩ := equipped.running (runs running)
    have attends : Attends session := ⟨holding.listening, id, holding.receiver, holding.present⟩
    rw [run, run_get_bind] at refused
    exact turns_avoid environment attends _ refused
  · rw [run_unreceived environment (equipped.halted halted).1]

end Shared

end LanguageClient.Session
