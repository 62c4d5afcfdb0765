import LanguageClient.Editor.Event

/-!
# Delivering editor events

A hub delivers every event to every live subscription. A subscription is live from its start
until it is disposed, or until an event finds its receiver gone. The receiver keeps what was
delivered and not yet received, also after the subscription ended; then it is closed.

Disposing a subscription again has no effect. A group holds subscriptions and disposes them
together, the most recent first.

Subscriptions are numbered without a bound, which is what a word of 64 bits does as long as fewer
than `2 ^ 64` subscriptions are started. After that many the word would go round and give a number
out again; such a hub is not covered.
-/

namespace LanguageClient

/-- What a receiver holds: events not yet received. -/
structure Inbox where
  id : Nat
  queue : List EditorEvent
deriving DecidableEq, Repr

/-- A hub: the next number, which is below `2 ^ 64`, the live subscriptions in order, and the
receivers that exist. -/
structure EventHub where
  next : Nat
  live : List Nat
  inboxes : List Inbox
deriving DecidableEq, Repr

/-- The handle of a subscription. -/
structure Subscription where
  id : Nat
  active : Bool
deriving DecidableEq, Repr

/-- What a receiver yields without waiting. -/
inductive Received where
  | event (value : EditorEvent)
  | empty
  | closed
  | noReceiver
deriving DecidableEq, Repr

namespace EventHub

/-- A hub without subscriptions. -/
def empty : EventHub := ⟨0, [], []⟩

/-- Start a subscription with an empty receiver. -/
def subscribe (hub : EventHub) : Subscription × EventHub :=
  (⟨hub.next, true⟩,
    ⟨hub.next + 1, hub.live ++ [hub.next], hub.inboxes ++ [⟨hub.next, []⟩]⟩)

/-- Whether the receiver of a subscription exists. -/
def hasReceiver (hub : EventHub) (id : Nat) : Bool := hub.inboxes.any (·.id == id)

/-- Deliver an event to every live subscription. Those without a receiver end. -/
def emit (hub : EventHub) (event : EditorEvent) : EventHub :=
  { hub with
    live := hub.live.filter hub.hasReceiver
    inboxes := hub.inboxes.map fun inbox =>
      if hub.live.contains inbox.id then { inbox with queue := inbox.queue ++ [event] }
      else inbox }

/-- End a subscription. -/
def cancel (hub : EventHub) (id : Nat) : EventHub :=
  { hub with live := hub.live.filter (· != id) }

/-- Drop a receiver with what it holds. -/
def dropReceiver (hub : EventHub) (id : Nat) : EventHub :=
  { hub with inboxes := hub.inboxes.filter (·.id != id) }

/-- End all subscriptions, as when the hub itself goes away. -/
def close (hub : EventHub) : EventHub := { hub with live := [] }

/-- Number of live subscriptions. -/
def subscriberCount (hub : EventHub) : Nat := hub.live.length

/-- What the receiver of a subscription holds. -/
def queueOf? (hub : EventHub) (id : Nat) : Option (List EditorEvent) :=
  (hub.inboxes.find? (·.id == id)).map (·.queue)

/-- Number of events that wait at the receiver of a subscription. -/
def waiting (hub : EventHub) (id : Nat) : Nat := ((hub.queueOf? id).getD []).length

/-- Take the next event of a subscription. -/
def receive (hub : EventHub) (id : Nat) : Received × EventHub :=
  match hub.queueOf? id with
  | none => (.noReceiver, hub)
  | some [] => (if hub.live.contains id then .empty else .closed, hub)
  | some (event :: rest) =>
    (.event event,
      { hub with inboxes := hub.inboxes.map fun inbox =>
          if inbox.id == id then { inbox with queue := rest } else inbox })

end EventHub

namespace Subscription

/-- Dispose a subscription. Only the first time has an effect. -/
def dispose (subscription : Subscription) (hub : EventHub) : Subscription × EventHub :=
  if subscription.active then ({ subscription with active := false }, hub.cancel subscription.id)
  else (subscription, hub)

/-- A subscription as shown to a developer. -/
def describe (subscription : Subscription) : String :=
  "Subscription \x7b active: " ++ (if subscription.active then "true" else "false") ++ " \x7d"

/-- Dispose all subscriptions of a group, the most recent first. -/
def disposeAll (group : List Subscription) (hub : EventHub) : EventHub :=
  group.reverse.foldl (fun hub subscription => (subscription.dispose hub).2) hub

end Subscription

end LanguageClient
