import LanguageClient.Proofs.KeyedLists
import LanguageClient.TaskRegistry
import Mathlib.Data.List.Basic
import Mathlib.Data.List.Induction

/-!
# The account of the tasks

A registry is called any number of times, with any identifiers and any teardowns. What it then
holds, and which teardowns were performed in which order, is said of the calls alone.

An identifier is live if the last call that concerns it registers it. A registration is admitted
if its identifier is not live, and its entry stands until the first later call that ends it. The
entries of the registry are those that stand, in the order of their calls. The teardowns performed
are, for each call in turn, those of the entries that it ends, in the order of their calls; so each
admitted registration is accounted for once if a later call ended it, and else not at all.
-/

namespace LanguageClient

/-- A call to a registry of tasks. -/
inductive TaskCall (Teardown : Type) where
  | register (id : String) (teardown : Teardown)
  | dispose (id : String)
  | disposeAll
deriving DecidableEq, Repr

namespace TaskCall

variable {Teardown : Type}

/-- Whether a call ends the task of an identifier, if it is live. -/
def ends (id : String) : TaskCall Teardown → Bool
  | .register _ _ => false
  | .dispose other => other == id
  | .disposeAll => true

/-- Whether a call registers an identifier, admitted or not. -/
def registers (id : String) : TaskCall Teardown → Bool
  | .register other _ => other == id
  | _ => false

/-- Whether an identifier is live after some calls: the last call that concerns it is a
registration. -/
def isLive (calls : List (TaskCall Teardown)) (id : String) : Bool :=
  (calls.filter fun call => call.registers id || call.ends id).getLast?.any (·.registers id)

/-- The entry that a call makes after others. -/
def enters? (earlier : List (TaskCall Teardown)) : TaskCall Teardown → Option (String × Teardown)
  | .register id teardown => if isLive earlier id then none else some (id, teardown)
  | _ => none

/-- The entry that one of the calls makes. -/
def admitted (calls : List (TaskCall Teardown)) (number : Nat) : Option (String × Teardown) :=
  calls[number]?.bind (enters? (calls.take number))

/-- The entry that one of the calls makes, if no later call ends it. -/
def standing (calls : List (TaskCall Teardown)) (number : Nat) : Option (String × Teardown) :=
  (admitted calls number).filter fun entry => !(calls.drop (number + 1)).any (·.ends entry.1)

/-- The entry that one of the calls makes, if a later call ends it. -/
def ended (calls : List (TaskCall Teardown)) (number : Nat) : Option (String × Teardown) :=
  (admitted calls number).filter fun entry => (calls.drop (number + 1)).any (·.ends entry.1)

/-- The entry of one of the calls that stands until a certain moment, if the call of that moment
ends it. -/
def endedAt (calls : List (TaskCall Teardown)) (moment number : Nat) :
    Option (String × Teardown) :=
  (standing (calls.take moment) number).filter fun entry => calls[moment]?.any (·.ends entry.1)

/-- The entries that stand after some calls, in the order of the calls that made them. -/
def entries (calls : List (TaskCall Teardown)) : List (String × Teardown) :=
  (List.range calls.length).filterMap (standing calls)

/-- The teardowns due after some calls, each with the number of the call that registered it: for
each call in turn those of the entries that it ends, in the order of the calls that made them. -/
def account (calls : List (TaskCall Teardown)) : List (Nat × Teardown) :=
  (List.range calls.length).flatMap fun moment =>
    (List.range moment).filterMap fun number =>
      (endedAt calls moment number).map fun entry => (number, entry.2)

variable {calls : List (TaskCall Teardown)} {number : Nat}

/-- Whether an identifier is live after one call more is decided by that call, if it concerns the
identifier. -/
theorem isLive_snoc (calls : List (TaskCall Teardown)) (last : TaskCall Teardown) (id : String) :
    isLive (calls ++ [last]) id = (last.registers id || !last.ends id && isLive calls id) := by
  cases registered : last.registers id <;> cases ended : last.ends id <;>
    simp [isLive, List.filter_append, registered, ended]

/-- An entry is made only for an identifier that is not live. -/
theorem isLive_of_enters? {last : TaskCall Teardown} {entry : String × Teardown}
    (made : enters? calls last = some entry) : isLive calls entry.1 = false := by
  cases last with
  | register id teardown =>
    simp only [enters?, Option.ite_none_left_eq_some, Option.some.injEq] at made
    obtain ⟨free, rfl⟩ := made
    simpa using free
  | _ => cases made

/-- What a call admits is not changed by later calls. -/
theorem admitted_snoc_of_lt (last : TaskCall Teardown) (earlier : number < calls.length) :
    admitted (calls ++ [last]) number = admitted calls number := by
  rw [admitted, admitted, List.getElem?_append_left earlier,
    List.take_append_of_le_length (Nat.le_of_lt earlier)]

/-- What the last call admits. -/
theorem admitted_snoc_length (last : TaskCall Teardown) :
    admitted (calls ++ [last]) calls.length = enters? calls last := by
  simp [admitted]

/-- With one call more, an entry stands if it stood and the call does not end it. -/
theorem standing_snoc_of_lt (last : TaskCall Teardown) (earlier : number < calls.length) :
    standing (calls ++ [last]) number =
      (standing calls number).filter fun entry => !last.ends entry.1 := by
  rw [standing, standing, admitted_snoc_of_lt last earlier,
    List.drop_append_of_le_length earlier, Option.filter_filter]
  simp

/-- The entry of the last call stands. -/
theorem standing_snoc_length (last : TaskCall Teardown) :
    standing (calls ++ [last]) calls.length = enters? calls last := by
  rw [standing, admitted_snoc_length]
  cases enters? calls last <;> simp

/-- With one call more, an entry was ended if it was already, or if it stood and the call ends
it. -/
theorem ended_snoc_of_lt (last : TaskCall Teardown) (earlier : number < calls.length) :
    ended (calls ++ [last]) number =
      (ended calls number).or ((standing calls number).filter fun entry => last.ends entry.1) := by
  rw [ended, ended, standing, admitted_snoc_of_lt last earlier,
    List.drop_append_of_le_length earlier]
  cases admitted calls number with
  | none => rfl
  | some entry =>
    by_cases gone : (calls.drop (number + 1)).any (·.ends entry.1) = true
    · simp [Option.filter, gone]
    · simp [Option.filter, gone]

/-- An entry that was ended does not stand. -/
theorem standing_of_ended {entry : String × Teardown} (gone : ended calls number = some entry) :
    standing calls number = none := by
  obtain ⟨made, later⟩ := Option.filter_eq_some_iff.mp gone
  rw [standing, made]
  simp only [Option.filter, later]
  rfl

/-- No entry is ended that was not made by an earlier call. -/
theorem ended_of_le (late : calls.length ≤ number + 1) : ended calls number = none := by
  rw [ended, List.drop_of_length_le late]
  simp

/-- With one call more, the entries that it ends are gone, and its own comes last. -/
theorem entries_snoc (calls : List (TaskCall Teardown)) (last : TaskCall Teardown) :
    entries (calls ++ [last]) =
      (entries calls).filter (fun entry => !last.ends entry.1) ++ (enters? calls last).toList := by
  have stood : (List.range calls.length).filterMap (standing (calls ++ [last])) =
      (entries calls).filter fun entry => !last.ends entry.1 := by
    rw [entries, List.filter_filterMap]
    refine List.filterMap_congr fun number member => ?_
    exact standing_snoc_of_lt last (List.mem_range.mp member)
  rw [entries, List.length_append, List.length_singleton, List.range_succ, List.filterMap_append,
    stood]
  cases entered : enters? calls last <;> simp [standing_snoc_length, entered]

/-- With one call more, the teardowns of the entries that it ends come last. -/
theorem account_snoc (calls : List (TaskCall Teardown)) (last : TaskCall Teardown) :
    account (calls ++ [last]) = account calls ++
      (List.range calls.length).filterMap fun number =>
        ((standing calls number).filter fun entry => last.ends entry.1).map fun entry =>
          (number, entry.2) := by
  rw [account, List.length_append, List.length_singleton, List.range_succ, List.flatMap_append]
  congr 1
  · refine List.flatMap_congr fun moment member => ?_
    have earlier := List.mem_range.mp member
    simp only [endedAt, List.getElem?_append_left earlier,
      List.take_append_of_le_length (Nat.le_of_lt earlier)]
  · simp [endedAt]

/-- Of what is listed by number, one number selects at most its own. -/
theorem filter_numbered {α β : Type} (found : Nat → Option α) (value : α → β)
    (count number : Nat) :
    ((List.range count).filterMap fun number =>
        (found number).map fun each => (number, value each)).filter (·.1 == number) =
      if number < count then ((found number).map fun each => (number, value each)).toList
      else [] := by
  have selected : (fun other => ((found other).map fun each => (other, value each)).filter
        (·.1 == number)) =
      fun other =>
        if (other == number) = true then (found other).map fun each => (other, value each)
        else none := by
    funext other
    cases found other with
    | none => simp
    | some each => simp [Option.filter]
  rw [List.filter_filterMap, selected, ← List.filterMap_filter, List.filter_beq, List.count_range]
  split
  · cases chosen : found number <;> simp [chosen]
  · rfl

/-- Each entry that was ended is accounted for once, and no other. -/
theorem account_filter (calls : List (TaskCall Teardown)) (number : Nat) :
    (account calls).filter (·.1 == number) =
      ((ended calls number).map fun entry => (number, entry.2)).toList := by
  induction calls using List.reverseRecOn with
  | nil => rfl
  | append_singleton calls last inductionHypothesis =>
    rw [account_snoc, List.filter_append, inductionHypothesis, filter_numbered]
    by_cases earlier : number < calls.length
    · rw [if_pos earlier, ended_snoc_of_lt last earlier]
      cases gone : ended calls number with
      | none => rw [Option.none_or]; rfl
      | some entry => rw [standing_of_ended gone]; rfl
    · have late : calls.length ≤ number := Nat.le_of_not_lt earlier
      rw [if_neg earlier, ended_of_le (Nat.le_succ_of_le late), ended_of_le (by simpa using late)]
      rfl

end TaskCall

namespace TaskRegistry

variable {Teardown : Type} {registry : TaskRegistry Teardown} {id : String}

/-- A live identifier is rejected. -/
theorem register_of_live (teardown : Teardown) (live : id ∈ registry.ids) :
    registry.register id teardown = .error ⟨id⟩ := by
  rw [register, if_pos (by simpa [contains] using live)]

/-- Any other identifier is registered last. -/
theorem register_of_not_live (teardown : Teardown) (free : id ∉ registry.ids) :
    registry.register id teardown = .ok ⟨registry.tasks ++ [(id, teardown)]⟩ := by
  rw [register, if_neg (by simpa [contains] using free)]

/-- Disposing a task leaves the other identifiers live. -/
theorem mem_ids_dispose {other : String} :
    id ∈ (registry.dispose other).2.ids ↔ id ≠ other ∧ id ∈ registry.ids := by
  simp [dispose, ids, and_comm]

/-- A registry is the same without a task exactly if the task is not live. -/
theorem dispose_eq_self_iff (registry : TaskRegistry Teardown) (id : String) :
    (registry.dispose id).2 = registry ↔ id ∉ registry.ids := by
  have kept : (registry.dispose id).2 = registry ↔
      registry.tasks.filter (·.1 != id) = registry.tasks := by
    cases registry
    exact TaskRegistry.mk.injEq _ _ ▸ Iff.rfl
  rw [kept, List.filter_eq_self, ids, List.mem_map]
  constructor
  · rintro different ⟨task, member, rfl⟩
    simpa using different task member
  · intro absent task member
    rw [bne_iff_ne]
    intro same
    exact absent ⟨task, member, same⟩

/-- Disposing a live task takes its entry out of the others, and hands out its teardown. -/
theorem dispose_of_live (distinct : registry.ids.Nodup) (live : id ∈ registry.ids) :
    ∃ above teardown below, registry.tasks = above ++ (id, teardown) :: below ∧
      registry.dispose id = (some teardown, ⟨above ++ below⟩) := by
  obtain ⟨⟨_, teardown⟩, member, rfl⟩ := List.mem_map.mp live
  obtain ⟨above, below, split⟩ := List.append_of_mem member
  refine ⟨above, teardown, below, split, Prod.ext (lookup_of_mem distinct member) ?_⟩
  rw [ids, split] at distinct
  simp only [dispose, split, filter_without distinct]

/-- Disposing any other identifier does nothing. -/
theorem dispose_of_not_live (free : id ∉ registry.ids) :
    registry.dispose id = (none, registry) := by
  refine Prod.ext (List.lookup_eq_none_iff.mpr fun task member => ?_)
    ((dispose_eq_self_iff registry id).mpr free)
  rw [bne_iff_ne]
  rintro rfl
  exact free (List.mem_map_of_mem member)

end TaskRegistry

/-- A registry and the teardowns performed so far. -/
structure TaskLedger (Teardown : Type) where
  registry : TaskRegistry Teardown
  performed : List Teardown

namespace TaskLedger

variable {Teardown : Type}

/-- What a call makes of the registry. The teardowns that it hands out are performed. -/
def call (ledger : TaskLedger Teardown) : TaskCall Teardown → TaskLedger Teardown
  | .register id teardown =>
    match ledger.registry.register id teardown with
    | .ok registry => { ledger with registry := registry }
    | .error _ => ledger
  | .dispose id =>
    let (teardown, registry) := ledger.registry.dispose id
    ⟨registry, ledger.performed ++ teardown.toList⟩
  | .disposeAll =>
    let (teardowns, registry) := ledger.registry.disposeAll
    ⟨registry, ledger.performed ++ teardowns⟩

/-- What some calls make of an empty registry. -/
def after (calls : List (TaskCall Teardown)) : TaskLedger Teardown :=
  calls.foldl call ⟨.empty, []⟩

/-- One call more. -/
theorem after_snoc (calls : List (TaskCall Teardown)) (last : TaskCall Teardown) :
    after (calls ++ [last]) = (after calls).call last := by
  simp [after]

/-- A ledger agrees with the calls that were made. -/
structure Accounts (ledger : TaskLedger Teardown) (calls : List (TaskCall Teardown)) : Prop where
  live : ∀ id, id ∈ ledger.registry.ids ↔ TaskCall.isLive calls id = true
  distinct : ledger.registry.ids.Nodup
  tasks : ledger.registry.tasks = TaskCall.entries calls
  performed : ledger.performed = (TaskCall.account calls).map Prod.snd

variable {ledger : TaskLedger Teardown} {calls : List (TaskCall Teardown)}

/-- A live identifier is rejected, and its new teardown is neither kept nor performed. -/
theorem call_register_of_live {id : String} (teardown : Teardown)
    (live : id ∈ ledger.registry.ids) : ledger.call (.register id teardown) = ledger := by
  rw [call, TaskRegistry.register_of_live teardown live]

/-- Any other identifier is registered last. -/
theorem call_register_of_not_live {id : String} (teardown : Teardown)
    (free : id ∉ ledger.registry.ids) :
    ledger.call (.register id teardown) =
      ⟨⟨ledger.registry.tasks ++ [(id, teardown)]⟩, ledger.performed⟩ := by
  rw [call, TaskRegistry.register_of_not_live teardown free]

/-- The tasks after a call are those that it does not end, and last the one that it enters. -/
theorem Accounts.call_tasks (accounts : ledger.Accounts calls) (last : TaskCall Teardown) :
    (ledger.call last).registry.tasks =
      ledger.registry.tasks.filter (fun entry => !last.ends entry.1) ++
        (TaskCall.enters? calls last).toList := by
  cases last with
  | register id teardown =>
    have untouched : ledger.registry.tasks.filter
        (fun entry => !(TaskCall.register id teardown).ends entry.1) = ledger.registry.tasks := by
      simp [TaskCall.ends]
    rw [untouched, TaskCall.enters?]
    by_cases live : id ∈ ledger.registry.ids
    · rw [call_register_of_live teardown live, if_pos ((accounts.live id).mp live)]
      exact (List.append_nil _).symm
    · rw [call_register_of_not_live teardown live, if_neg (mt (accounts.live id).mpr live)]
      rfl
  | dispose id =>
    have others : (fun entry : String × Teardown => entry.1 != id) =
        fun entry => !(TaskCall.dispose id : TaskCall Teardown).ends entry.1 := by
      funext entry
      simp [TaskCall.ends, bne, Bool.beq_comm]
    exact (congrArg ledger.registry.tasks.filter others).trans (List.append_nil _).symm
  | disposeAll => simp [call, TaskRegistry.disposeAll, TaskRegistry.empty, TaskCall.ends,
      TaskCall.enters?]

/-- A call performs the teardowns of the tasks that it ends, in the order of the registry. -/
theorem call_performed (distinct : ledger.registry.ids.Nodup) (last : TaskCall Teardown) :
    (ledger.call last).performed = ledger.performed ++
      (ledger.registry.tasks.filter fun entry => last.ends entry.1).map Prod.snd := by
  cases last with
  | register id teardown =>
    have none : ledger.registry.tasks.filter
        (fun entry => (TaskCall.register id teardown).ends entry.1) = [] := by
      simp [TaskCall.ends]
    rw [none, List.map_nil, List.append_nil]
    by_cases live : id ∈ ledger.registry.ids
    · rw [call_register_of_live teardown live]
    · rw [call_register_of_not_live teardown live]
  | dispose id =>
    have one : ledger.registry.tasks.filter
          (fun entry => (TaskCall.dispose id : TaskCall Teardown).ends entry.1) =
        (ledger.registry.tasks.lookup id).toList.map (id, ·) := by
      rw [← filter_key distinct id]
      refine List.filter_congr fun entry _ => ?_
      exact Bool.beq_comm
    rw [one, List.map_map]
    exact congrArg (ledger.performed ++ ·) (List.map_id' _).symm
  | disposeAll => simp [call, TaskRegistry.disposeAll, TaskCall.ends]

/-- The live identifiers after a call are those that it registers, and of the others those that it
does not end. -/
theorem mem_ids_call (ledger : TaskLedger Teardown) (last : TaskCall Teardown) (id : String) :
    id ∈ (ledger.call last).registry.ids ↔
      last.registers id = true ∨ last.ends id = false ∧ id ∈ ledger.registry.ids := by
  cases last with
  | register other teardown =>
    simp only [TaskCall.registers, beq_iff_eq, TaskCall.ends, true_and]
    by_cases live : other ∈ ledger.registry.ids
    · rw [call_register_of_live teardown live]
      constructor
      · exact .inr
      · rintro (rfl | member)
        · exact live
        · exact member
    · rw [call_register_of_not_live teardown live]
      simp [TaskRegistry.ids, or_comm, eq_comm]
  | dispose other =>
    simp only [TaskCall.registers, Bool.false_eq_true, TaskCall.ends, beq_eq_false_iff_ne,
      false_or]
    exact TaskRegistry.mem_ids_dispose.trans (and_congr_left fun _ => ne_comm)
  | disposeAll =>
    simp [call, TaskRegistry.disposeAll, TaskRegistry.empty, TaskRegistry.ids, TaskCall.ends,
      TaskCall.registers]

/-- One call more keeps the ledger in agreement with the calls. -/
theorem Accounts.call (accounts : ledger.Accounts calls) (last : TaskCall Teardown) :
    (ledger.call last).Accounts (calls ++ [last]) where
  live := fun id => by simp [mem_ids_call, accounts.live, TaskCall.isLive_snoc]
  distinct := by
    rw [TaskRegistry.ids, accounts.call_tasks, List.map_append, List.nodup_append]
    refine ⟨accounts.distinct.sublist (List.filter_sublist.map Prod.fst), ?_, ?_⟩
    · cases TaskCall.enters? calls last <;> simp
    · rintro id held entered new rfl
      obtain ⟨entry, made, rfl⟩ := List.mem_map.mp new
      have fresh := TaskCall.isLive_of_enters? (Option.mem_toList.mp made)
      have live := (accounts.live entry.1).mp (List.Sublist.subset
        (List.filter_sublist.map Prod.fst) held)
      exact absurd live (by simp [fresh])
  tasks := by rw [accounts.call_tasks, accounts.tasks, TaskCall.entries_snoc]
  performed := by
    rw [call_performed accounts.distinct, accounts.performed, accounts.tasks,
      TaskCall.account_snoc, List.map_append, TaskCall.entries, List.filter_filterMap,
      List.map_filterMap, List.map_filterMap]
    simp only [Option.map_map]
    rfl

/-- The ledger agrees with any calls. -/
theorem after_accounts (calls : List (TaskCall Teardown)) : (after calls).Accounts calls := by
  induction calls using List.reverseRecOn with
  | nil => exact ⟨fun _ => ⟨nofun, nofun⟩, List.nodup_nil, rfl, rfl⟩
  | append_singleton calls last inductionHypothesis =>
    rw [after_snoc]
    exact inductionHypothesis.call last

/-- After any calls, the live identifiers are distinct, and the tasks are the entries that stand, in
the order of the registrations that made them. A registration is rejected exactly if its identifier
is live, and then changes nothing; a disposal finds a teardown exactly if the identifier is live,
takes its entry out of the others, and leaves the identifier free. The teardowns performed are
accounted for call by call, and the account holds each admitted registration once if its entry was
ended by a later call, and nothing else. -/
theorem tasks_accounted (calls : List (TaskCall Teardown)) :
    let ledger := after calls
    let registry := ledger.registry
    (registry.ids.Nodup ∧ registry.tasks = TaskCall.entries calls ∧
      ∀ id, id ∈ registry.ids ↔ TaskCall.isLive calls id = true) ∧
    (∀ id teardown,
      (id ∈ registry.ids → registry.register id teardown = .error ⟨id⟩ ∧
        after (calls ++ [.register id teardown]) = ledger) ∧
      (id ∉ registry.ids →
        registry.register id teardown = .ok ⟨registry.tasks ++ [(id, teardown)]⟩)) ∧
    (∀ id,
      (id ∈ registry.ids → ∃ above teardown below,
        registry.tasks = above ++ (id, teardown) :: below ∧
          registry.dispose id = (some teardown, ⟨above ++ below⟩)) ∧
      (id ∉ registry.ids → registry.dispose id = (none, registry)) ∧
      ∀ teardown, ((registry.dispose id).2.register id teardown).isOk) ∧
    ledger.performed = (TaskCall.account calls).map Prod.snd ∧
    ∀ number, (TaskCall.account calls).filter (·.1 == number) =
      ((TaskCall.ended calls number).map fun entry => (number, entry.2)).toList := by
  intro ledger registry
  have accounts : ledger.Accounts calls := after_accounts calls
  refine ⟨⟨accounts.distinct, accounts.tasks, accounts.live⟩, fun id teardown => ⟨?_, ?_⟩,
    fun id => ⟨?_, ?_, ?_⟩, accounts.performed, TaskCall.account_filter calls⟩
  · intro live
    refine ⟨TaskRegistry.register_of_live teardown live, ?_⟩
    rw [after_snoc]
    exact call_register_of_live teardown live
  · exact TaskRegistry.register_of_not_live teardown
  · exact TaskRegistry.dispose_of_live accounts.distinct
  · exact TaskRegistry.dispose_of_not_live
  · intro teardown
    have free : id ∉ (registry.dispose id).2.ids := fun live =>
      (TaskRegistry.mem_ids_dispose.mp live).1 rfl
    rw [TaskRegistry.register_of_not_live teardown free]
    rfl

-- The rejected second registration of "a" is accounted for nowhere, the third once.
example :
    TaskCall.account [.register "a" 10, .register "a" 11, .dispose "a", .register "b" 12,
      .register "a" 13, .disposeAll, .dispose "a"] = [(0, 10), (3, 12), (4, 13)] := by decide

end TaskLedger

end LanguageClient
