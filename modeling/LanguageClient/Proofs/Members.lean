import LanguageClient.Json.Basic
import LanguageClient.Proofs.KeyedLists

/-!
# Members in the order of their keys

Putting a member into a list makes it the one that is found under its key and leaves what is found
under every other key. Fields that are already in strictly ascending order stay as they are when
they are sorted, so a canonical object is the object with its own members. Fields whose keys differ
are found in any order as they are found when they are sorted. Sorting puts any fields into strictly
ascending order, so each key is there once.
-/

namespace LanguageClient.Json

/-- The member that was put in is found under its key; other keys find what they found before. -/
theorem find?_insertMember (key other : String) (value : Json) (members : List (String × Json)) :
    find? key (insertMember other value members) =
      if other = key then some value else find? key members := by
  induction members with
  | nil => simp [insertMember, find?]
  | cons member members inductionHypothesis =>
    obtain ⟨present, old⟩ := member
    unfold insertMember
    split
    · rename_i same
      subst same
      by_cases found : other = key <;> simp [find?, found]
    · rename_i different
      split
      · simp [find?]
      · by_cases found : present = key
        · subst found
          simp [find?, different]
        · simp [find?, found, inductionHypothesis]

/-- Finding a member is a look-up. -/
theorem find?_eq_lookup (key : String) (members : List (String × Json)) :
    find? key members = members.lookup key := by
  induction members with
  | nil => rfl
  | cons member members inductionHypothesis =>
    obtain ⟨other, value⟩ := member
    by_cases same : key = other
    · simp [find?, same]
    · have unlike : (key == other) = false := by simpa using same
      simp [find?, Ne.symm same, List.lookup_cons, unlike, inductionHypothesis]

/-- Of fields whose keys differ each is found, before or after those that were there. -/
theorem find?_foldl_insertMember {fields : List (String × Json)}
    (keys : (fields.map Prod.fst).Nodup) (key : String) (members : List (String × Json)) :
    find? key (fields.foldl (fun found field => insertMember field.1 field.2 found) members) =
      (find? key fields).or (find? key members) := by
  induction fields generalizing members with
  | nil => rfl
  | cons field fields inductionHypothesis =>
    obtain ⟨first, value⟩ := field
    have unique : first ∉ fields.map Prod.fst ∧ (fields.map Prod.fst).Nodup := by
      simpa only [List.map_cons, List.nodup_cons] using keys
    rw [List.foldl_cons, inductionHypothesis unique.2, find?_insertMember]
    by_cases same : first = key
    · subst same
      have absent : find? first fields = none := by
        rw [find?_eq_lookup, List.lookup_eq_none_iff]
        intro entry inside
        have different : first ≠ entry.1 := fun equal =>
          unique.1 (List.mem_map.mpr ⟨entry, inside, equal.symm⟩)
        simpa using different
      simp [find?, absent]
    · simp [find?, same]

/-- Sorting fields whose keys differ changes nothing about what is found. -/
theorem find?_sortMembers {fields : List (String × Json)} (keys : (fields.map Prod.fst).Nodup)
    (key : String) : find? key (sortMembers fields) = find? key fields := by
  have found := find?_foldl_insertMember keys key []
  rwa [find?, Option.or_none] at found

/-- In strictly ascending order the first key is below all others. -/
theorem lt_of_sortedKeys {key : String} {value : Json} {members : List (String × Json)}
    (sorted : sortedKeys ((key, value) :: members) = true) :
    sortedKeys members = true ∧ ∀ member ∈ members, key < member.1 := by
  induction members generalizing key value with
  | nil => simp [sortedKeys]
  | cons member members inductionHypothesis =>
    obtain ⟨second, other⟩ := member
    simp only [sortedKeys, Bool.and_eq_true, decide_eq_true_eq] at sorted
    obtain ⟨_, above⟩ := inductionHypothesis sorted.2
    refine ⟨sorted.2, ?_⟩
    intro member present
    rcases List.mem_cons.mp present with rfl | present
    · exact sorted.1
    · exact String.lt_trans sorted.1 (above member present)

/-- In strictly ascending order no two members have the same key. -/
theorem nodup_of_sortedKeys {members : List (String × Json)} (sorted : sortedKeys members = true) :
    (members.map Prod.fst).Nodup := by
  induction members with
  | nil => exact List.nodup_nil
  | cons member members inductionHypothesis =>
    obtain ⟨rest, below⟩ := lt_of_sortedKeys sorted
    refine List.nodup_cons.mpr ⟨fun inside => ?_, inductionHypothesis rest⟩
    obtain ⟨other, later, same⟩ := List.mem_map.mp inside
    exact String.lt_irrefl member.1 (same ▸ below other later)

/-- Members are in strictly ascending order if the first key is below all others and these are. -/
theorem sortedKeys_cons {key : String} {value : Json} {members : List (String × Json)}
    (sorted : sortedKeys members = true) (below : ∀ member ∈ members, key < member.1) :
    sortedKeys ((key, value) :: members) = true := by
  cases members with
  | nil => rfl
  | cons member members =>
    have first : key < member.1 := below member List.mem_cons_self
    simp [sortedKeys, first, sorted]

/-- Putting a member in adds no other one. -/
theorem mem_of_mem_insertMember {key : String} {value : Json} {members : List (String × Json)}
    {member : String × Json} (inside : member ∈ insertMember key value members) :
    member = (key, value) ∨ member ∈ members := by
  induction members with
  | nil => exact .inl (List.mem_singleton.mp inside)
  | cons first members inductionHypothesis =>
    obtain ⟨other, present⟩ := first
    unfold insertMember at inside
    split at inside
    · rcases List.mem_cons.mp inside with same | later
      · exact .inl same
      · exact .inr (List.mem_cons_of_mem _ later)
    · split at inside
      · exact List.mem_cons.mp inside
      · rcases List.mem_cons.mp inside with same | later
        · exact .inr (same ▸ List.mem_cons_self)
        · exact (inductionHypothesis later).imp_right (List.mem_cons_of_mem _)

/-- Putting a member in keeps the order. -/
theorem sortedKeys_insertMember (key : String) (value : Json) {members : List (String × Json)}
    (sorted : sortedKeys members = true) : sortedKeys (insertMember key value members) = true := by
  induction members with
  | nil => rfl
  | cons first members inductionHypothesis =>
    obtain ⟨other, present⟩ := first
    obtain ⟨rest, below⟩ := lt_of_sortedKeys sorted
    unfold insertMember
    split
    · rename_i same
      exact sortedKeys_cons rest (same ▸ below)
    · rename_i different
      split
      · rename_i before
        apply sortedKeys_cons sorted
        intro member inside
        rcases List.mem_cons.mp inside with rfl | later
        · exact before
        · exact String.lt_trans before (below member later)
      · rename_i notBefore
        have after : other < key := by
          apply Decidable.byContradiction
          intro notAfter
          apply different
          exact String.le_antisymm (String.not_lt.mp notAfter) (String.not_lt.mp notBefore)
        apply sortedKeys_cons (inductionHypothesis rest)
        intro member inside
        rcases mem_of_mem_insertMember inside with rfl | later
        · exact after
        · exact below member later

/-- Sorted fields are in strictly ascending order. -/
theorem sortedKeys_sortMembers (fields : List (String × Json)) :
    sortedKeys (sortMembers fields) = true := by
  have keeps : ∀ members, sortedKeys members = true →
      sortedKeys (fields.foldl (fun found field => insertMember field.1 field.2 found) members) =
        true := by
    induction fields with
    | nil => exact fun members sorted => sorted
    | cons field fields inductionHypothesis =>
      intro members sorted
      exact inductionHypothesis _ (sortedKeys_insertMember field.1 field.2 sorted)
  exact keeps [] rfl

/-- A key above all others goes to the end. -/
theorem insertMember_last {key : String} (value : Json) {members : List (String × Json)}
    (above : ∀ member ∈ members, member.1 < key) :
    insertMember key value members = members ++ [(key, value)] := by
  induction members with
  | nil => rfl
  | cons member members inductionHypothesis =>
    obtain ⟨present, old⟩ := member
    have below : present < key := above (present, old) List.mem_cons_self
    have different : key ≠ present := by
      rintro rfl
      exact String.lt_irrefl key below
    have later := inductionHypothesis fun member inside =>
      above member (List.mem_cons_of_mem (present, old) inside)
    simp [insertMember, different, String.lt_asymm below, later]

/-- Fields in strictly ascending order are put in one after the other at the end. -/
theorem foldl_insertMember {members sorted : List (String × Json)}
    (ascending : sortedKeys members = true)
    (above : ∀ present ∈ sorted, ∀ member ∈ members, present.1 < member.1) :
    members.foldl (fun found member => insertMember member.1 member.2 found) sorted =
      sorted ++ members := by
  induction members generalizing sorted with
  | nil => simp
  | cons member members inductionHypothesis =>
    obtain ⟨key, value⟩ := member
    obtain ⟨rest, below⟩ := lt_of_sortedKeys ascending
    have last : insertMember key value sorted = sorted ++ [(key, value)] :=
      insertMember_last value fun present inside =>
        above present inside (key, value) List.mem_cons_self
    have stillAbove : ∀ present ∈ sorted ++ [(key, value)], ∀ member ∈ members,
        present.1 < member.1 := by
      intro present inside member later
      rcases List.mem_append.mp inside with old | new
      · exact above present old member (List.mem_cons_of_mem (key, value) later)
      · rw [List.mem_singleton.mp new]
        exact below member later
    rw [List.foldl_cons, last, inductionHypothesis rest stillAbove, List.append_assoc]
    rfl

/-- Fields in strictly ascending order are the members of their object. -/
theorem ofFields_of_sortedKeys {members : List (String × Json)}
    (ascending : sortedKeys members = true) : ofFields members = .object members :=
  congrArg Json.object (foldl_insertMember ascending (by simp))

end LanguageClient.Json
