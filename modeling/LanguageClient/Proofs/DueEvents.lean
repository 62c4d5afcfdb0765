import LanguageClient.Editor.EventHub
import Mathlib.Data.List.Basic
import Mathlib.Data.List.TakeWhile

/-!
# What subscriptions are due

A hub is called any number of times: subscriptions are started and disposed, alone or together,
events are emitted, and receivers take events or are dropped. What a subscription is due is said of
the calls after its start alone: the events emitted before the first call that disposes it or drops
its receiver. It lasts until it is disposed, or until an event is emitted after its receiver was
dropped. Each of these is given for one call more.
-/

namespace LanguageClient

/-- A call to a hub, to the handle of one of its subscriptions or to a receiver. Subscriptions are
numbered in the order of their start. -/
inductive HubCall where
  | subscribe
  | emit (event : EditorEvent)
  /-- A handle is disposed, by hand or because its owner drops it. -/
  | dispose (number : Nat)
  /-- The handles of a group are disposed. -/
  | disposeTogether (numbers : List Nat)
  | dropReceiver (number : Nat)
  | receive (number : Nat)
deriving DecidableEq, Repr

namespace HubCall

/-- The event that a call emits. -/
def event? : HubCall → Option EditorEvent
  | .emit event => some event
  | _ => none

/-- Whether a call disposes a subscription. -/
def disposes (number : Nat) : HubCall → Bool
  | .dispose other => other == number
  | .disposeTogether others => others.contains number
  | _ => false

/-- Whether a call drops the receiver of a subscription. -/
def drops (number : Nat) : HubCall → Bool
  | .dropReceiver other => other == number
  | _ => false

/-- Number of subscriptions started. -/
def started (calls : List HubCall) : Nat := calls.count .subscribe

/-- The calls after the start of a subscription. -/
def since : Nat → List HubCall → List HubCall
  | _, [] => []
  | 0, .subscribe :: calls => calls
  | number + 1, .subscribe :: calls => since number calls
  | number, _ :: calls => since number calls

/-- Whether a subscription was disposed. -/
def disposed (calls : List HubCall) (number : Nat) : Bool :=
  (since number calls).any (·.disposes number)

/-- Whether the receiver of a subscription was dropped. -/
def dropped (calls : List HubCall) (number : Nat) : Bool :=
  (since number calls).any (·.drops number)

/-- Whether an event was emitted after the receiver of a subscription was dropped. -/
def orphaned (calls : List HubCall) (number : Nat) : Bool :=
  ((since number calls).dropWhile (!·.drops number)).any (·.event?.isSome)

/-- The events that a subscription is due: those emitted after its start, before it is disposed
or its receiver dropped. -/
def due (calls : List HubCall) (number : Nat) : List EditorEvent :=
  ((since number calls).takeWhile fun call =>
    !(call.disposes number || call.drops number)).filterMap event?

/-- The subscriptions that were neither disposed nor found without a receiver. -/
def lasting (calls : List HubCall) : List Nat :=
  (List.range (started calls)).filter fun number =>
    !(disposed calls number || orphaned calls number)

variable {calls : List HubCall} {number : Nat}

/-- Other calls start no subscription. -/
theorem started_snoc (calls : List HubCall) {last : HubCall} (other : last ≠ .subscribe) :
    started (calls ++ [last]) = started calls := by
  simp [started, other]

/-- Other calls do not change which start a number stands for. -/
theorem since_cons_of_ne {call : HubCall} (other : call ≠ .subscribe) :
    since number (call :: calls) = since number calls := by
  cases call with
  | subscribe => exact absurd rfl other
  | _ => cases number <;> rfl

/-- One call more comes after the start of every subscription. -/
theorem since_snoc (last : HubCall) (earlier : number < started calls) :
    since number (calls ++ [last]) = since number calls ++ [last] := by
  induction calls generalizing number with
  | nil => cases earlier
  | cons call calls inductionHypothesis =>
    rw [List.cons_append]
    by_cases starts : call = .subscribe
    · subst starts
      cases number with
      | zero => rfl
      | succ number => exact inductionHypothesis (by simpa [started] using earlier)
    · rw [since_cons_of_ne starts, since_cons_of_ne starts]
      exact inductionHypothesis (by simpa [started, starts] using earlier)

/-- Nothing comes after the last call, not even if it starts a subscription. -/
theorem since_snoc_of_le (last : HubCall) (unstarted : started calls ≤ number) :
    since number (calls ++ [last]) = [] := by
  induction calls generalizing number with
  | nil => cases last <;> cases number <;> rfl
  | cons call calls inductionHypothesis =>
    rw [List.cons_append]
    by_cases starts : call = .subscribe
    · subst starts
      rw [started, List.count_cons_self] at unstarted
      cases number with
      | zero => cases unstarted
      | succ number => exact inductionHypothesis (Nat.le_of_succ_le_succ unstarted)
    · rw [started, List.count_cons_of_ne starts] at unstarted
      rw [since_cons_of_ne starts]
      exact inductionHypothesis unstarted

/-- No call comes after the start of a subscription that was not started. -/
theorem since_of_le (unstarted : started calls ≤ number) : since number calls = [] := by
  obtain rfl | ⟨earlier, last, rfl⟩ := List.eq_nil_or_concat calls
  · cases number <;> rfl
  · rw [List.concat_eq_append] at unstarted ⊢
    rw [started, List.count_append] at unstarted
    exact since_snoc_of_le last (Nat.le_of_add_right_le unstarted)

/-- The elements up to the first of which something is false, with one element more. -/
theorem takeWhile_snoc {α : Type} (holds : α → Bool) (list : List α) (last : α) :
    (list ++ [last]).takeWhile holds =
      list.takeWhile holds ++ if list.all holds && holds last then [last] else [] := by
  induction list with
  | nil => by_cases final : holds last <;> simp [final]
  | cons first list inductionHypothesis =>
    by_cases starts : holds first <;> simp [starts, inductionHypothesis]

/-- The elements from the first on of which something is false, with one element more. -/
theorem dropWhile_snoc {α : Type} (holds : α → Bool) (list : List α) (last : α) :
    (list ++ [last]).dropWhile holds =
      list.dropWhile holds ++ if list.all holds && holds last then [] else [last] := by
  induction list with
  | nil => by_cases final : holds last <;> simp [final]
  | cons first list inductionHypothesis =>
    by_cases starts : holds first <;> simp [starts, inductionHypothesis]

/-- No event comes too late for a receiver that was not dropped. -/
theorem orphaned_of_not_dropped (kept : dropped calls number = false) :
    orphaned calls number = false := by
  have all : ∀ call ∈ since number calls, (!call.drops number) = true := by
    simpa [dropped] using kept
  rw [orphaned, List.dropWhile_eq_nil_iff.mpr all]
  rfl

/-- A call that ends the delivery emits no event. -/
theorem event?_of_ends {call : HubCall}
    (ends : (call.disposes number || call.drops number) = true) : call.event? = none := by
  cases call with
  | emit event => cases ends
  | _ => rfl

section Started

variable (last : HubCall) (earlier : number < started calls)

include earlier

/-- A subscription was disposed already or is disposed by the last call. -/
theorem disposed_snoc :
    disposed (calls ++ [last]) number = (disposed calls number || last.disposes number) := by
  simp [disposed, since_snoc last earlier]

/-- A receiver was dropped already or is dropped by the last call. -/
theorem dropped_snoc :
    dropped (calls ++ [last]) number = (dropped calls number || last.drops number) := by
  simp [dropped, since_snoc last earlier]

/-- An event comes too late if one did already, or if the last call emits one and the receiver was
dropped before. -/
theorem orphaned_snoc :
    orphaned (calls ++ [last]) number =
      (orphaned calls number || dropped calls number && last.event?.isSome) := by
  have kept : (since number calls).all (!·.drops number) = !dropped calls number := by
    rw [dropped, List.not_any_eq_all_not]
  rw [orphaned, orphaned, since_snoc last earlier, dropWhile_snoc, List.any_append, kept]
  by_cases drops : last.drops number = true
  · simp [event?_of_ends (Bool.or_eq_true_iff.mpr (.inr drops))]
  · cases dropped calls number <;> simp [drops]

/-- An event is due with the last call if the subscription was not disposed before, nor its
receiver dropped. -/
theorem due_snoc :
    due (calls ++ [last]) number = due calls number ++
      if disposed calls number || dropped calls number then [] else last.event?.toList := by
  have kept : (since number calls).all (fun call => !(call.disposes number || call.drops number)) =
      !(disposed calls number || dropped calls number) := by
    rw [disposed, dropped, Bool.eq_iff_iff]
    simp only [List.all_eq_true, Bool.not_eq_true', Bool.or_eq_false_iff, List.any_eq_false,
      Bool.not_eq_true]
    exact forall₂_and
  rw [due, due, since_snoc last earlier, takeWhile_snoc, List.filterMap_append, kept]
  congr 1
  cases disposed calls number || dropped calls number with
  | true => rfl
  | false =>
    by_cases ends : (last.disposes number || last.drops number) = true
    · simp [ends, event?_of_ends ends]
    · cases emitted : last.event? <;> simp [ends, emitted]

end Started

/-- Nothing is due to a subscription that was not started before the last call. -/
theorem due_snoc_of_le (last : HubCall) (unstarted : started calls ≤ number) :
    due (calls ++ [last]) number = due calls number := by
  rw [due, due, since_snoc_of_le last unstarted, since_of_le unstarted]

/-- A call that emits nothing makes nothing due. -/
theorem due_snoc_of_silent (last : HubCall) (silent : last.event? = none) :
    due (calls ++ [last]) number = due calls number := by
  by_cases earlier : number < started calls
  · rw [due_snoc last earlier, silent]
    simp
  · exact due_snoc_of_le last (Nat.le_of_not_lt earlier)

/-- Another start ends no subscription. -/
theorem lasting_subscribe : lasting (calls ++ [.subscribe]) = lasting calls ++ [started calls] := by
  have more : started (calls ++ [.subscribe]) = started calls + 1 := by simp [started]
  rw [lasting, more, List.range_succ, List.filter_append]
  congr 1
  · refine List.filter_congr fun number member => ?_
    have earlier := List.mem_range.mp member
    rw [disposed_snoc _ earlier, orphaned_snoc _ earlier]
    simp [disposes, event?]
  · simp [disposed, orphaned, since_snoc_of_le]

/-- Any other call ends the subscriptions that it disposes and, if it emits an event, those without
a receiver. -/
theorem lasting_snoc (last : HubCall) (other : last ≠ .subscribe) :
    lasting (calls ++ [last]) = (lasting calls).filter fun number =>
      !(last.disposes number || dropped calls number && last.event?.isSome) := by
  rw [lasting, started_snoc calls other, lasting, List.filter_filter]
  refine List.filter_congr fun number member => ?_
  have earlier := List.mem_range.mp member
  rw [disposed_snoc _ earlier, orphaned_snoc _ earlier]
  cases disposed calls number <;> cases orphaned calls number <;>
    cases last.disposes number <;> simp

end HubCall

end LanguageClient
