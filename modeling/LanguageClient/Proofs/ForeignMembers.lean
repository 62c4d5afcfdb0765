import LanguageClient.Proofs.Classification
import LanguageClient.Proofs.RecordReading

/-!
# Foreign members make no difference

A layout knows the names of its members. A member of another name passes its check whatever it
holds, and nothing is built from it. So what is read from an object depends on what the object has
under the known names: an object with the same values there, in any order and among any other
members, is read as the same record. And since reading starts with a check of every member, it
succeeds only if each known member that is there is decoded.
-/

namespace LanguageClient.Json

variable {α β : Type}

/-- A loop succeeds only over what passes a check. -/
theorem of_forM_ok {ε : Type} {items : List α} {check : α → Except ε Unit}
    (done : items.forM check = .ok ()) : ∀ item ∈ items, check item = .ok () := by
  induction items with
  | nil => exact fun item inside => absurd inside List.not_mem_nil
  | cons first items inductionHypothesis =>
    obtain ⟨_, passed, later⟩ := of_bind_ok done
    intro item inside
    obtain rfl | inside := List.mem_cons.mp inside
    · exact passed
    · exact inductionHypothesis later item inside

/-- Of members whose keys differ each is found, and nothing else is. -/
theorem find?_eq_some_iff {members : List (String × Json)} (keys : (members.map Prod.fst).Nodup)
    {name : String} {json : Json} : find? name members = some json ↔ (name, json) ∈ members := by
  rw [find?_eq_lookup]
  exact ⟨mem_of_lookup, lookup_of_mem keys⟩

/-- What is kept is there and is not `null`. -/
theorem nonNull?_eq_some_iff {found : Option Json} {json : Json} :
    nonNull? found = some json ↔ found = some json ∧ json.isNull = false := by
  constructor
  · intro kept
    obtain ⟨there, solid⟩ := of_nonNull?_eq_some kept
    refine ⟨there, ?_⟩
    cases json with
    | null => exact absurd rfl solid
    | _ => rfl
  · rintro ⟨rfl, solid⟩
    cases json with
    | null => cases solid
    | _ => rfl

/-- Leaving out the members that are `null` drops what is found to be `null`. -/
theorem find?_filter_null {members : List (String × Json)} (keys : (members.map Prod.fst).Nodup)
    (name : String) :
    find? name (members.filter fun (_, value) => !value.isNull) =
      nonNull? (find? name members) := by
  have left : ((members.filter fun (_, value) => !value.isNull).map Prod.fst).Nodup :=
    keys.sublist (List.filter_sublist.map Prod.fst)
  apply Option.ext
  intro json
  rw [find?_eq_some_iff left, nonNull?_eq_some_iff, find?_eq_some_iff keys, List.mem_filter,
    Bool.not_eq_true']

namespace Layout

/-- An object is read as a record only if all its members pass and the record is built from them. -/
theorem of_fromMembers_ok {layout : Layout α} {members : List (String × Json)} {value : α}
    (read : layout.fromMembers members = .ok value) :
    (∀ member ∈ members, layout.check member.1 member.2 = .ok ()) ∧
      layout.ofObject members = .ok value := by
  obtain ⟨_, passed, built⟩ := of_bind_ok read
  exact ⟨of_forM_ok passed, built⟩

/-- The names of the members that a layout knows, in declaration order. -/
inductive Knows : {α : Type} → Layout α → List String → Prop where
  | nothing {α : Type} (value : α) : Knows (.nothing value) []
  | member {α β : Type} {layout : Layout (α → β)} {names : List String}
      (before : Knows layout names) (member : Member α) :
      Knows (layout.and member) (names ++ [member.name])

section Known

variable {layout : Layout α} {names : List String} (knows : layout.Knows names)

include knows

/-- A member that a layout does not know passes, whatever it holds. -/
theorem Knows.check_foreign {name : String} (foreign : name ∉ names) (json : Json) :
    layout.check name json = .ok () := by
  induction knows with
  | nothing value => rfl
  | member before last inductionHypothesis =>
    rw [List.mem_append, not_or, List.mem_singleton] at foreign
    exact (if_neg foreign.2).trans (inductionHypothesis foreign.1)

/-- What a layout builds depends on the members that it knows alone. -/
theorem Knows.ofObject_congr {first second : List (String × Json)}
    (agree : ∀ name ∈ names, find? name first = find? name second) :
    layout.ofObject first = layout.ofObject second := by
  induction knows with
  | nothing value => rfl
  | member before last inductionHypothesis =>
    have built := inductionHypothesis fun name known => agree name (List.mem_append_left _ known)
    have lastSame : memberOfObject last first = memberOfObject last second := by
      rw [memberOfObject, memberOfObject, agree last.name (by simp)]
    simp only [Layout.and, built, lastSame]

/-- A record that is read from one object is read from any other one that has the same under the
known names. -/
theorem Knows.fromMembers_of_agree {first second : List (String × Json)} {value : α}
    (keys : (second.map Prod.fst).Nodup)
    (agree : ∀ name ∈ names, find? name first = find? name second)
    (read : layout.fromMembers first = .ok value) : layout.fromMembers second = .ok value := by
  obtain ⟨passed, built⟩ := of_fromMembers_ok read
  -- A known member of the second object is one of the first, where it has passed already.
  have passes : ∀ member ∈ second, layout.check member.1 member.2 = .ok () := by
    rintro ⟨name, json⟩ inside
    by_cases known : name ∈ names
    · have found : first.lookup name = some json := by
        rw [← find?_eq_lookup, agree name known, find?_eq_some_iff keys]
        exact inside
      exact passed _ (mem_of_lookup found)
    · exact knows.check_foreign known json
  rw [fromMembers, forM_ok passes, ← knows.ofObject_congr agree]
  exact built

/-- Objects that have the same under the known names are read as the same record, or neither is
read as any. -/
theorem Knows.toOption_fromMembers {first second : List (String × Json)}
    (firstKeys : (first.map Prod.fst).Nodup) (secondKeys : (second.map Prod.fst).Nodup)
    (agree : ∀ name ∈ names, find? name first = find? name second) :
    (layout.fromMembers first).toOption = (layout.fromMembers second).toOption := by
  cases read : layout.fromMembers first with
  | ok value => rw [knows.fromMembers_of_agree secondKeys agree read]
  | error cause =>
    cases other : layout.fromMembers second with
    | error otherCause => rfl
    | ok value =>
      have back := knows.fromMembers_of_agree firstKeys
        (fun name known => (agree name known).symm) other
      rw [read] at back
      cases back

end Known

end Layout

end LanguageClient.Json
