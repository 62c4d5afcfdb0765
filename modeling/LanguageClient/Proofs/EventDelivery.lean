import LanguageClient.Proofs.DueEvents
import LanguageClient.Proofs.EventHubLaws
import Mathlib.Data.List.Induction

/-!
# What is delivered to a subscription

What the receiver of a subscription took, what it still holds and what was dropped with it are
together what the subscription is due, whatever becomes of the other subscriptions. A receiver
yields what it holds and then, once the subscription is disposed, nothing more. The live
subscriptions are those that were not disposed, less those whose receiver was already dropped when
an event was emitted.

A call that starts no subscription has an effect that is the same for all such calls: it ends some
subscriptions, delivers at most one event, and drops at most one receiver. The agreement with the
calls follows from this effect.
-/

namespace LanguageClient

/-- A hub, the handles of its subscriptions, what the receivers yielded, in the order in which they
were asked, and what they held when they were dropped. -/
structure Audience where
  hub : EventHub
  handles : List Subscription
  yielded : List (Nat × Received)
  lost : List (Nat × EditorEvent)

namespace Audience

/-- What the receiver of a subscription holds. -/
def held (audience : Audience) (number : Nat) : List EditorEvent :=
  (audience.hub.queueOf? number).getD []

/-- The events that a receiver took. -/
def received (audience : Audience) (number : Nat) : List EditorEvent :=
  (audience.yielded.filter (·.1 == number)).filterMap (·.2.event?)

/-- The events that were dropped with a receiver. -/
def lostWith (audience : Audience) (number : Nat) : List EditorEvent :=
  (audience.lost.filter (·.1 == number)).map Prod.snd

/-- The events that were delivered to a receiver: those that it took, those that it holds and those
that were dropped with it. -/
def delivered (audience : Audience) (number : Nat) : List EditorEvent :=
  audience.received number ++ audience.held number ++ audience.lostWith number

/-- The handles of a group are no longer active. -/
def spend (numbers : List Nat) (handles : List Subscription) : List Subscription :=
  handles.mapIdx fun number handle =>
    { handle with active := handle.active && !numbers.contains number }

/-- What a call makes of the hub, the handles and the receivers. -/
def call (audience : Audience) : HubCall → Audience
  | .subscribe =>
    let (handle, hub) := audience.hub.subscribe
    { audience with hub := hub, handles := audience.handles ++ [handle] }
  | .emit event => { audience with hub := audience.hub.emit event }
  | .dispose number =>
    match audience.handles[number]? with
    | none => audience
    | some handle =>
      let (disposed, hub) := handle.dispose audience.hub
      { audience with hub := hub, handles := audience.handles.set number disposed }
  | .disposeTogether numbers =>
    { audience with
      hub := Subscription.disposeAll (numbers.filterMap (audience.handles[·]?)) audience.hub
      handles := spend numbers audience.handles }
  | .dropReceiver number =>
    { audience with
      hub := audience.hub.dropReceiver number
      lost := audience.lost ++ (audience.held number).map (number, ·) }
  | .receive number =>
    let (received, hub) := audience.hub.receive number
    { audience with hub := hub, yielded := audience.yielded ++ [(number, received)] }

/-- What some calls make of a hub without subscriptions. -/
def after (calls : List HubCall) : Audience := calls.foldl call ⟨.empty, [], [], []⟩

/-- One call more. -/
theorem after_snoc (calls : List HubCall) (last : HubCall) :
    after (calls ++ [last]) = (after calls).call last := by
  simp [after]

/-- The hub, the handles and the receivers are as the calls say. -/
structure Agrees (audience : Audience) (calls : List HubCall) : Prop where
  next : audience.hub.next = HubCall.started calls
  handles : audience.handles = (List.range (HubCall.started calls)).map fun number =>
    ⟨number, !HubCall.disposed calls number⟩
  live : audience.hub.live = HubCall.lasting calls
  receivers : ∀ number, audience.hub.hasReceiver number = true ↔
    number < HubCall.started calls ∧ HubCall.dropped calls number = false
  delivered : ∀ number, audience.delivered number = HubCall.due calls number
  kept : ∀ number, audience.hub.hasReceiver number = true → audience.lostWith number = []

variable {audience : Audience} {calls : List HubCall}

/-- A new subscription has a receiver, which holds nothing. -/
theorem Agrees.subscribe (agrees : audience.Agrees calls) :
    (audience.call .subscribe).Agrees (calls ++ [.subscribe]) := by
  have more : HubCall.started (calls ++ [.subscribe]) = HubCall.started calls + 1 := by
    simp [HubCall.started]
  have since : HubCall.since (HubCall.started calls) (calls ++ [.subscribe]) = [] :=
    HubCall.since_snoc_of_le _ (Nat.le_refl _)
  have fresh : audience.hub.queueOf? audience.hub.next = none := by
    rw [← Option.not_isSome_iff_eq_none, ← EventHub.hasReceiver_eq_isSome, agrees.receivers,
      agrees.next]
    exact fun started => absurd started.1 (Nat.lt_irrefl _)
  have queues (number : Nat) : (audience.call .subscribe).hub.queueOf? number =
      if number = HubCall.started calls then some [] else audience.hub.queueOf? number := by
    rw [← agrees.next]
    exact audience.hub.queueOf?_subscribe number fresh
  have unheard : audience.delivered (HubCall.started calls) = [] := by
    rw [agrees.delivered, HubCall.due, HubCall.since_of_le (Nat.le_refl _)]
    rfl
  constructor
  case next => exact (congrArg (· + 1) agrees.next).trans more.symm
  case handles =>
    have others : audience.handles = (List.range (HubCall.started calls)).map fun number =>
        ⟨number, !HubCall.disposed (calls ++ [.subscribe]) number⟩ := by
      rw [agrees.handles]
      refine List.map_congr_left fun number member => ?_
      rw [HubCall.disposed_snoc _ (List.mem_range.mp member)]
      exact congrArg (Subscription.mk number !·) (Bool.or_false _).symm
    have own : HubCall.disposed (calls ++ [.subscribe]) (HubCall.started calls) = false := by
      rw [HubCall.disposed, since]
      rfl
    rw [more, List.range_succ, List.map_append, List.map_singleton, ← others, own, ← agrees.next]
    rfl
  case live =>
    rw [HubCall.lasting_subscribe, ← agrees.live, ← agrees.next]
    rfl
  case receivers =>
    intro number
    rw [EventHub.hasReceiver_eq_isSome, queues, more]
    by_cases new : number = HubCall.started calls
    · subst new
      simp [HubCall.dropped, since]
    · rw [if_neg new, ← EventHub.hasReceiver_eq_isSome, agrees.receivers]
      constructor
      · rintro ⟨earlier, kept⟩
        rw [HubCall.dropped_snoc _ earlier, kept]
        exact ⟨Nat.lt_succ_of_lt earlier, rfl⟩
      · rintro ⟨bounded, kept⟩
        have earlier : number < HubCall.started calls := by omega
        rw [HubCall.dropped_snoc _ earlier] at kept
        exact ⟨earlier, (Bool.or_eq_false_iff.mp kept).1⟩
  case delivered =>
    intro number
    have same : (audience.call .subscribe).held number = audience.held number := by
      rw [held, queues, held]
      split
      · rename_i new
        rw [new, ← agrees.next, fresh]
        rfl
      · rfl
    rw [HubCall.due_snoc_of_silent _ rfl, ← agrees.delivered, Audience.delivered, same]
    rfl
  case kept =>
    intro number present
    by_cases new : number = HubCall.started calls
    · subst new
      exact (List.append_eq_nil_iff.mp unheard).2
    · rw [EventHub.hasReceiver_eq_isSome, queues, if_neg new,
        ← EventHub.hasReceiver_eq_isSome] at present
      exact agrees.kept number present

/-- A subscription has a receiver until it is dropped. -/
theorem Agrees.receives (agrees : audience.Agrees calls) {number : Nat}
    (earlier : number < HubCall.started calls) :
    audience.hub.hasReceiver number = !HubCall.dropped calls number := by
  rw [Bool.eq_iff_iff, agrees.receivers]
  simp [earlier]

/-- A subscription lives and has a receiver exactly if it was not disposed, nor the receiver
dropped. -/
theorem Agrees.attends_iff (agrees : audience.Agrees calls) {number : Nat}
    (earlier : number < HubCall.started calls) :
    number ∈ audience.hub.live ∧ audience.hub.hasReceiver number = true ↔
      HubCall.disposed calls number = false ∧ HubCall.dropped calls number = false := by
  rw [agrees.receivers, agrees.live, HubCall.lasting, List.mem_filter, List.mem_range]
  constructor
  · rintro ⟨⟨-, lasts⟩, -, kept⟩
    rw [HubCall.orphaned_of_not_dropped kept] at lasts
    exact ⟨by simpa using lasts, kept⟩
  · rintro ⟨active, kept⟩
    rw [HubCall.orphaned_of_not_dropped kept, active]
    exact ⟨⟨earlier, rfl⟩, earlier, kept⟩

/-- What a call that starts no subscription does. It ends what it disposes and, if it emits an
event, what has no receiver; the event is delivered to the receivers of live subscriptions, and
what was delivered is not lost with a receiver unless that one is dropped. -/
structure Effect (audience : Audience) (last : HubCall) (after : Audience) : Prop where
  next : after.hub.next = audience.hub.next
  handles : after.handles = audience.handles.map fun handle =>
    { handle with active := handle.active && !last.disposes handle.id }
  live : after.hub.live = audience.hub.live.filter fun number =>
    !(last.disposes number || last.event?.isSome && !audience.hub.hasReceiver number)
  receivers : ∀ number, after.hub.hasReceiver number =
    (audience.hub.hasReceiver number && !last.drops number)
  delivered : ∀ number, after.delivered number = audience.delivered number ++
    if number ∈ audience.hub.live ∧ audience.hub.hasReceiver number = true then last.event?.toList
    else []
  kept : ∀ number, last.drops number = false → after.lostWith number = audience.lostWith number

/-- Such an effect keeps the audience in agreement with the calls. -/
theorem Agrees.step (agrees : audience.Agrees calls) {last : HubCall} {after : Audience}
    (other : last ≠ .subscribe) (effect : audience.Effect last after) :
    after.Agrees (calls ++ [last]) := by
  have same := HubCall.started_snoc calls other
  constructor
  case next => rw [effect.next, agrees.next, same]
  case handles =>
    rw [effect.handles, agrees.handles, List.map_map, same]
    refine List.map_congr_left fun number member => ?_
    rw [HubCall.disposed_snoc last (List.mem_range.mp member)]
    simp
  case live =>
    rw [effect.live, agrees.live, HubCall.lasting_snoc last other]
    refine List.filter_congr fun number member => ?_
    have earlier := List.mem_range.mp (List.mem_filter.mp member).1
    rw [agrees.receives earlier, Bool.not_not, Bool.and_comm last.event?.isSome]
  case receivers =>
    intro number
    rw [effect.receivers, same, Bool.and_eq_true, agrees.receivers, and_assoc]
    refine and_congr_right fun earlier => ?_
    rw [HubCall.dropped_snoc last earlier, Bool.or_eq_false_iff, Bool.not_eq_true']
  case delivered =>
    intro number
    rw [effect.delivered, agrees.delivered]
    by_cases earlier : number < HubCall.started calls
    · rw [HubCall.due_snoc last earlier]
      congr 1
      by_cases attends :
          HubCall.disposed calls number = false ∧ HubCall.dropped calls number = false
      · rw [if_pos ((agrees.attends_iff earlier).mpr attends), attends.1, attends.2]
        rfl
      · rw [if_neg (mt (agrees.attends_iff earlier).mp attends), if_pos]
        simpa [← Bool.or_eq_false_iff] using attends
    · have deaf : ¬ (number ∈ audience.hub.live ∧ audience.hub.hasReceiver number = true) :=
        fun attends => earlier ((agrees.receivers number).mp attends.2).1
      rw [if_neg deaf, List.append_nil, HubCall.due_snoc_of_le last (Nat.le_of_not_lt earlier)]
  case kept =>
    intro number present
    rw [effect.receivers, Bool.and_eq_true, Bool.not_eq_true'] at present
    rw [effect.kept number present.2]
    exact agrees.kept number present.1

/-- Without a receiver nothing is held. -/
theorem held_eq_nil {number : Nat} (gone : audience.hub.hasReceiver number = false) :
    audience.held number = [] := by
  rw [EventHub.hasReceiver_eq_isSome, Option.isSome_eq_false_iff, Option.isNone_iff_eq_none] at gone
  rw [held, gone]
  rfl

/-- An emitted event goes to those who live and have a receiver. -/
theorem Agrees.emit_effect (agrees : audience.Agrees calls) (event : EditorEvent) :
    audience.Effect (.emit event) (audience.call (.emit event)) := by
  have queues (number : Nat) : (audience.call (.emit event)).hub.queueOf? number = _ :=
    audience.hub.queueOf?_emit number event
  constructor
  case next => rfl
  case handles => simp [Audience.call, HubCall.disposes]
  case live =>
    refine List.filter_congr fun number _ => ?_
    simp [HubCall.disposes, HubCall.event?]
  case receivers =>
    intro number
    simp [EventHub.hasReceiver_eq_isSome, queues, HubCall.drops]
  case delivered =>
    intro number
    change audience.received number ++ (audience.call (.emit event)).held number ++
      audience.lostWith number = _
    rw [Audience.delivered, held, queues]
    cases holds : audience.hub.queueOf? number with
    | none => simp [held, holds, EventHub.hasReceiver_eq_isSome]
    | some queue =>
      have present : audience.hub.hasReceiver number = true := by
        rw [EventHub.hasReceiver_eq_isSome, holds]
        rfl
      rw [agrees.kept number present]
      by_cases live : number ∈ audience.hub.live
      · simp [held, holds, live, present, HubCall.event?]
      · simp [held, holds, live]
  case kept => exact fun _ _ => rfl

/-- A dropped receiver is gone, and what it held is lost. -/
theorem Agrees.dropReceiver_effect (agrees : audience.Agrees calls) (number : Nat) :
    audience.Effect (.dropReceiver number) (audience.call (.dropReceiver number)) := by
  have queues (other : Nat) : (audience.call (.dropReceiver number)).hub.queueOf? other = _ :=
    audience.hub.queueOf?_dropReceiver other number
  have holds (other : Nat) : (audience.call (.dropReceiver number)).held other =
      if other = number then [] else audience.held other := by
    rw [held, queues, apply_ite Option.getD, ite_apply, held]
    rfl
  have lost (other : Nat) : (audience.call (.dropReceiver number)).lostWith other =
      audience.lostWith other ++ if number = other then audience.held number else [] := by
    simp only [lostWith, Audience.call, List.filter_append, List.map_append]
    congr 1
    by_cases own : number = other <;> simp [List.filter_map, Function.comp_def, own]
  constructor
  case next => rfl
  case handles => simp [Audience.call, HubCall.disposes]
  case live => simp [Audience.call, EventHub.dropReceiver, HubCall.disposes, HubCall.event?]
  case receivers =>
    intro other
    simp only [EventHub.hasReceiver_eq_isSome, queues, HubCall.drops]
    by_cases own : other = number
    · simp [own]
    · simp [own, Ne.symm own]
  case delivered =>
    intro other
    have still : (if other ∈ audience.hub.live ∧ audience.hub.hasReceiver other = true then
        (HubCall.dropReceiver number).event?.toList else []) = [] := by
      split <;> rfl
    rw [still, List.append_nil, Audience.delivered, Audience.delivered, lost]
    change audience.received other ++ _ ++ _ = _
    by_cases own : other = number
    · subst own
      cases present : audience.hub.hasReceiver other with
      | true => simp [holds, agrees.kept other present]
      | false => simp [holds, held_eq_nil present]
    · simp [holds, own, Ne.symm own]
  case kept =>
    intro other keeps
    have different : number ≠ other := by simpa [HubCall.drops] using keeps
    rw [lost, if_neg different, List.append_nil]

/-- A receiver takes the first event that it holds. -/
theorem receive_effect (audience : Audience) (number : Nat) :
    audience.Effect (.receive number) (audience.call (.receive number)) := by
  have queues (other : Nat) : (audience.call (.receive number)).hub.queueOf? other = _ :=
    audience.hub.queueOf?_receive other number
  have frame := audience.hub.receive_frame number
  have received (other : Nat) : (audience.call (.receive number)).received other =
      audience.received other ++
        if number = other then ((audience.hub.queueOf? number).bind List.head?).toList else [] := by
    rw [← audience.hub.event?_receive]
    simp only [Audience.received, call, List.filter_append, List.filterMap_append]
    congr 1
    by_cases own : number = other
    · subst own
      cases yielded : (audience.hub.receive number).1.event? <;> simp [yielded]
    · simp [own]
  constructor
  case next => exact frame.1
  case handles => simp [call, HubCall.disposes]
  case live =>
    refine frame.2.trans (List.filter_eq_self.mpr fun other _ => ?_).symm
    rfl
  case receivers =>
    intro other
    simp [EventHub.hasReceiver_eq_isSome, queues, HubCall.drops]
  case delivered =>
    intro other
    have still : (if other ∈ audience.hub.live ∧ audience.hub.hasReceiver other = true then
        (HubCall.receive number).event?.toList else []) = [] := by
      split <;> rfl
    rw [still, List.append_nil, delivered, delivered, received]
    change _ ++ _ ++ audience.lostWith other = _
    congr 1
    by_cases own : other = number
    · subst own
      rw [held, queues, held]
      cases audience.hub.queueOf? other with
      | none => simp
      | some queue => cases queue <;> simp
    · simp [held, queues, own, Ne.symm own]
  case kept => exact fun _ _ => rfl

/-- Disposing one handle is disposing a group of one. -/
theorem call_dispose (audience : Audience) (number : Nat) :
    audience.call (.dispose number) = audience.call (.disposeTogether [number]) := by
  cases found : audience.handles[number]? with
  | none =>
    have kept : spend [number] audience.handles = audience.handles := by
      refine List.ext_getElem? fun other => ?_
      rw [spend, List.getElem?_mapIdx]
      cases held : audience.handles[other]? with
      | none => rfl
      | some handle =>
        have different : other ≠ number := by
          rintro rfl
          rw [found] at held
          cases held
        simp [different]
    simp only [call, found, kept, List.filterMap_cons, List.filterMap_nil]
    rfl
  | some handle =>
    have spent : spend [number] audience.handles =
        audience.handles.set number { handle with active := false } := by
      refine List.ext_getElem? fun other => ?_
      rw [spend, List.getElem?_mapIdx, List.getElem?_set]
      by_cases own : number = other
      · subst own
        obtain ⟨inside, -⟩ := List.getElem?_eq_some_iff.mp found
        rw [found, if_pos rfl, if_pos inside]
        simp
      · cases audience.handles[other]? <;> simp [own, Ne.symm own]
    simp only [call, found, spent, List.filterMap_cons, List.filterMap_nil,
      Subscription.dispose_fst]
    rfl

/-- Disposing handles ends their subscriptions. -/
theorem Agrees.disposal_effect (agrees : audience.Agrees calls) {last : HubCall}
    {numbers : List Nat} (same : ∀ number, last.disposes number = numbers.contains number)
    (keeps : ∀ number, last.drops number = false) (silent : last.event? = none) :
    audience.Effect last (audience.call (.disposeTogether numbers)) := by
  have source := Subscription.disposeAll_eq (numbers.filterMap (audience.handles[·]?)) audience.hub
  have queues (number : Nat) : (audience.call (.disposeTogether numbers)).hub.queueOf? number =
      audience.hub.queueOf? number := by
    simp only [call, source]
    rfl
  constructor
  case next => simp only [call, source]
  case handles =>
    simp only [call, spend, same]
    refine List.ext_getElem? fun number => ?_
    rw [agrees.handles]
    by_cases earlier : number < HubCall.started calls
    · simp [earlier]
    · simp [earlier]
  case live =>
    simp only [call, source]
    refine List.filter_congr fun number member => ?_
    rw [agrees.live, HubCall.lasting, List.mem_filter, List.mem_range] at member
    have active : HubCall.disposed calls number = false := by
      simpa using (Bool.or_eq_false_iff.mp (Bool.not_eq_true' _ ▸ member.2)).1
    have grouped : (⟨number, true⟩ : Subscription) ∈ numbers.filterMap (audience.handles[·]?) ↔
        number ∈ numbers := by
      rw [List.mem_filterMap, agrees.handles]
      constructor
      · rintro ⟨other, named, found⟩
        obtain ⟨inside, handle⟩ := List.getElem?_eq_some_iff.mp found
        have own : other = number := by simpa using congrArg Subscription.id handle
        exact own ▸ named
      · intro named
        exact ⟨number, named, by simp [member.1, active]⟩
    simp [same, silent, grouped]
  case receivers =>
    intro number
    simp [EventHub.hasReceiver_eq_isSome, queues, keeps]
  case delivered =>
    intro number
    rw [silent, Option.toList_none, ite_self, List.append_nil, Audience.delivered, held, queues]
    rfl
  case kept => exact fun _ _ => rfl

/-- One call more keeps the audience in agreement with the calls. -/
theorem Agrees.call (agrees : audience.Agrees calls) (last : HubCall) :
    (audience.call last).Agrees (calls ++ [last]) := by
  cases last with
  | subscribe => exact agrees.subscribe
  | emit event => exact agrees.step (by simp) (agrees.emit_effect event)
  | dispose number =>
    rw [call_dispose]
    refine agrees.step (by simp) (agrees.disposal_effect (fun other => ?_) (fun _ => rfl) rfl)
    simp [HubCall.disposes, Bool.beq_eq_decide_eq, eq_comm]
  | disposeTogether numbers =>
    exact agrees.step (by simp) (agrees.disposal_effect (fun _ => rfl) (fun _ => rfl) rfl)
  | dropReceiver number => exact agrees.step (by simp) (agrees.dropReceiver_effect number)
  | receive number => exact agrees.step (by simp) (receive_effect audience number)

/-- The audience agrees with any calls. -/
theorem after_agrees (calls : List HubCall) : (after calls).Agrees calls := by
  induction calls using List.reverseRecOn with
  | nil =>
    refine ⟨rfl, rfl, rfl, fun number => ⟨nofun, fun started => absurd started.1 nofun⟩,
      fun number => ?_, nofun⟩
    rw [HubCall.due, HubCall.since_of_le (Nat.zero_le number)]
    rfl
  | append_singleton calls last inductionHypothesis =>
    rw [after_snoc]
    exact inductionHypothesis.call last

/-- A receiver that holds nothing yields that it is empty, or closed if its subscription ended. -/
theorem call_receive_nil {number : Nat} (drained : audience.hub.queueOf? number = some []) :
    audience.call (.receive number) =
      { audience with yielded := audience.yielded ++
          [(number, if number ∈ audience.hub.live then .empty else .closed)] } := by
  have received : audience.hub.receive number =
      (if number ∈ audience.hub.live then .empty else .closed, audience.hub) := by
    rw [EventHub.receive, drained]
    simp
  simp only [call, received]

/-- A receiver that holds something yields the first of it, and holds the rest. -/
theorem call_receive_cons {number : Nat} {event : EditorEvent} {queue : List EditorEvent}
    (holds : audience.hub.queueOf? number = some (event :: queue)) :
    (audience.call (.receive number)).yielded = audience.yielded ++ [(number, .event event)] ∧
      (audience.call (.receive number)).hub.queueOf? number = some queue ∧
      (audience.call (.receive number)).hub.live = audience.hub.live := by
  refine ⟨?_, ?_, ?_⟩
  · simp only [call, EventHub.receive, holds]
  · simp only [call, audience.hub.queueOf?_receive number number, holds]
    rfl
  · simp only [call, EventHub.receive, holds]

/-- A receiver that is asked often enough yields what it holds, and then that it is empty, or
closed if its subscription ended. -/
theorem yielded_receives {number : Nat} {queue : List EditorEvent}
    (holds : audience.hub.queueOf? number = some queue) (more : Nat) :
    ((List.replicate (queue.length + more) (.receive number)).foldl call audience).yielded =
      audience.yielded ++ queue.map (number, .event ·) ++
        List.replicate more (number, if number ∈ audience.hub.live then .empty else .closed) := by
  induction queue generalizing audience with
  | nil =>
    rw [List.length_nil, Nat.zero_add, List.map_nil, List.append_nil]
    induction more generalizing audience with
    | zero => simp
    | succ more again =>
      rw [List.replicate_succ, List.foldl_cons, call_receive_nil holds]
      refine (again ?_).trans ?_
      · exact holds
      · rw [List.replicate_succ, List.append_assoc]
        rfl
  | cons event queue inductionHypothesis =>
    obtain ⟨yielded, left, live⟩ := call_receive_cons holds
    rw [List.length_cons, Nat.add_right_comm, List.replicate_succ, List.foldl_cons,
      inductionHypothesis left, yielded]
    simp [live]

/-- Whatever is done with a hub, what was delivered to a subscription is what it is due; it is kept
until it is taken, unless the receiver is dropped. A receiver that was not dropped yields what it
holds when it is asked, and then that it is empty or, once the subscription was disposed, closed.
The live subscriptions are those that were not disposed, less those that an event found without a
receiver. -/
theorem events_reach_their_subscribers (calls : List HubCall) :
    let audience := after calls
    (∀ number < HubCall.started calls,
      audience.delivered number = HubCall.due calls number ∧
      audience.hub.hasReceiver number = !HubCall.dropped calls number ∧
      (HubCall.dropped calls number = false →
        audience.lostWith number = [] ∧
        ∀ more, (after (calls ++ List.replicate ((audience.held number).length + more)
            (.receive number))).yielded =
          audience.yielded ++ (audience.held number).map (number, .event ·) ++
            List.replicate more
              (number, if HubCall.disposed calls number then .closed else .empty))) ∧
    audience.hub.subscriberCount =
      ((List.range (HubCall.started calls)).filter fun number =>
        !(HubCall.disposed calls number || HubCall.orphaned calls number)).length := by
  intro audience
  have agrees : audience.Agrees calls := after_agrees calls
  refine ⟨fun number earlier => ⟨agrees.delivered number, agrees.receives earlier, fun kept => ?_⟩,
    congrArg List.length agrees.live⟩
  have present : audience.hub.hasReceiver number = true := by
    rw [agrees.receives earlier, kept]
    rfl
  refine ⟨agrees.kept number present, fun more => ?_⟩
  have holds : audience.hub.queueOf? number = some (audience.held number) := by
    rw [EventHub.hasReceiver_eq_isSome] at present
    obtain ⟨queue, found⟩ := Option.isSome_iff_exists.mp present
    rw [held, found, Option.getD_some]
  have attends := agrees.attends_iff earlier
  have ended : (if number ∈ audience.hub.live then Received.empty else .closed) =
      if HubCall.disposed calls number then .closed else .empty := by
    simp only [present, kept, and_true] at attends
    cases active : HubCall.disposed calls number <;> simp [attends, active]
  rw [after, List.foldl_append, ← ended]
  exact yielded_receives holds more

-- A receiver that was dropped still counts, until the next event.
example :
    let event := EditorEvent.activeChanged none
    let calls := [.subscribe, .subscribe, .emit event, .dispose 0, .emit event, .dropReceiver 1]
    HubCall.due calls 0 = [event] ∧ HubCall.due calls 1 = [event, event] ∧
      (after calls).hub.subscriberCount = 1 ∧
      (after (calls ++ [.emit event])).hub.subscriberCount = 0 := by
  decide

end Audience

end LanguageClient
