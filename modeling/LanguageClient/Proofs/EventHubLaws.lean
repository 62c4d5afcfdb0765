import LanguageClient.Editor.EventHub
import Mathlib.Data.List.Basic

/-!
# Laws of the event hub

What each operation of a hub makes of the queue of any receiver, and which subscriptions it ends.
Disposing subscriptions, alone or together, ends those that were not disposed before and leaves
everything else as it is.
-/

namespace LanguageClient

/-- The event that a receiver yielded. -/
def Received.event? : Received → Option EditorEvent
  | .event value => some value
  | _ => none

namespace EventHub

variable (hub : EventHub) (id : Nat)

/-- A receiver exists if it holds a queue. -/
theorem hasReceiver_eq_isSome : hub.hasReceiver id = (hub.queueOf? id).isSome := by
  rw [hasReceiver, queueOf?, Option.isSome_map, List.isSome_find?]

/-- A new subscription has an empty queue, and the other queues stay as they are. -/
theorem queueOf?_subscribe (fresh : hub.queueOf? hub.next = none) :
    hub.subscribe.2.queueOf? id = if id = hub.next then some [] else hub.queueOf? id := by
  simp only [queueOf?, subscribe, List.find?_append, Option.map_or]
  split
  · rename_i same
    subst same
    rw [queueOf?] at fresh
    rw [fresh]
    simp
  · rename_i different
    have other : (hub.next == id) = false := beq_eq_false_iff_ne.mpr (Ne.symm different)
    simp [other]

/-- If the queues change and the receivers keep their numbers, a queue changes as its receiver
does. -/
theorem queueOf?_map {change : Inbox → Inbox} (after : List EditorEvent → List EditorEvent)
    (named : ∀ inbox, (change inbox).id = inbox.id)
    (changed : ∀ inbox, inbox.id = id → (change inbox).queue = after inbox.queue) :
    ({ hub with inboxes := hub.inboxes.map change } : EventHub).queueOf? id =
      (hub.queueOf? id).map after := by
  simp only [queueOf?, List.find?_map, Function.comp_def, named, Option.map_map]
  refine Option.map_congr fun inbox found => changed inbox ?_
  simpa using List.find?_some found

/-- An event is added to the queues of live subscriptions. -/
theorem queueOf?_emit (event : EditorEvent) :
    (hub.emit event).queueOf? id =
      (hub.queueOf? id).map fun queue => if id ∈ hub.live then queue ++ [event] else queue := by
  refine hub.queueOf?_map id _ (fun inbox => ?_) (fun inbox own => ?_)
  · split <;> rfl
  · subst own
    by_cases live : inbox.id ∈ hub.live
    · simp [live]
    · simp [live]

/-- A dropped receiver has no queue, and the other queues stay as they are. -/
theorem queueOf?_dropReceiver (other : Nat) :
    (hub.dropReceiver other).queueOf? id = if id = other then none else hub.queueOf? id := by
  simp only [queueOf?, dropReceiver, List.find?_filter]
  split
  · rename_i same
    subst same
    simp
  · rename_i different
    congr 2
    funext inbox
    by_cases own : inbox.id = id
    · simp [own, different]
    · simp [own]

/-- Taking an event from one queue leaves the others as they are. -/
theorem queueOf?_receive (taker : Nat) :
    (hub.receive taker).2.queueOf? id =
      (hub.queueOf? id).map fun queue => if id = taker then queue.tail else queue := by
  by_cases own : id = taker
  · subst own
    simp only [if_true]
    rw [receive]
    split
    · rename_i absent
      simp [absent]
    · rename_i drained
      simp [drained]
    · rename_i event rest holds
      rw [hub.queueOf?_map id fun _ => rest, holds]
      · rfl
      · intro inbox
        split <;> rfl
      · intro inbox own
        simp [own]
  · simp only [own, if_false, Option.map_id']
    rw [receive]
    split
    · rfl
    · rfl
    · rw [hub.queueOf?_map id fun queue => queue, Option.map_id']
      · intro inbox
        split <;> rfl
      · intro inbox named
        simp [named, own]

/-- Taking an event ends no subscription. -/
theorem receive_frame :
    (hub.receive id).2.next = hub.next ∧ (hub.receive id).2.live = hub.live := by
  rw [receive]
  split <;> exact ⟨rfl, rfl⟩

/-- A receiver yields the first event that it holds. -/
theorem event?_receive : (hub.receive id).1.event? = (hub.queueOf? id).bind List.head? := by
  rw [receive]
  cases hub.queueOf? id with
  | none => rfl
  | some queue =>
    cases queue with
    | nil =>
      simp only [Option.bind_some, List.head?_nil]
      split <;> rfl
    | cons event queue => rfl

end EventHub

namespace Subscription

/-- Disposing a subscription ends it, if this was not done before. -/
theorem dispose_snd (subscription : Subscription) (hub : EventHub) :
    (subscription.dispose hub).2 =
      { hub with live := hub.live.filter fun id => ⟨id, true⟩ ≠ subscription } := by
  obtain ⟨own, active⟩ := subscription
  cases active with
  | true =>
    have others : hub.live.filter (· != own) =
        hub.live.filter fun id => (⟨id, true⟩ : Subscription) ≠ ⟨own, true⟩ :=
      List.filter_congr fun id _ => by simp [bne, Bool.beq_eq_decide_eq]
    rw [← others]
    rfl
  | false =>
    have all : ∀ id ∈ hub.live, decide ((⟨id, true⟩ : Subscription) ≠ ⟨own, false⟩) = true := by
      simp
    rw [List.filter_eq_self.mpr all]
    rfl

/-- A disposed handle is no longer active. -/
theorem dispose_fst (subscription : Subscription) (hub : EventHub) :
    (subscription.dispose hub).1 = { subscription with active := false } := by
  obtain ⟨own, active⟩ := subscription
  cases active <;> rfl

/-- Disposing subscriptions together ends those that were not disposed before. -/
theorem disposeAll_eq (group : List Subscription) (hub : EventHub) :
    disposeAll group hub = { hub with live := hub.live.filter fun id => ⟨id, true⟩ ∉ group } := by
  have disposed (subscriptions : List Subscription) :
      subscriptions.foldl (fun hub subscription => (subscription.dispose hub).2) hub =
        { hub with live := hub.live.filter fun id => ⟨id, true⟩ ∉ subscriptions } := by
    induction subscriptions generalizing hub with
    | nil => simp
    | cons subscription subscriptions inductionHypothesis =>
      rw [List.foldl_cons, inductionHypothesis, dispose_snd, List.filter_filter]
      congr 2
      funext id
      simp [Bool.and_comm]
  rw [disposeAll, disposed]
  simp

end Subscription

end LanguageClient
