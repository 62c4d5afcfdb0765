import LanguageClient.Json.Decode
import LanguageClient.Proofs.JsonText
import LanguageClient.Proofs.Members

/-!
# Records are read from the objects of their fields

A record is laid out member by member, and the object that it is written as has a place for every
member, which may be left empty. If each member reads its place, the record is read from the object:
the order in which the object keeps its members does not matter, since no two places have the same
name. And the object can be written as a text and parsed again if what is in its places can.
-/

namespace LanguageClient.Json

variable {α β : Type}

/-- The fields of an object of which some places may be empty. -/
def present (places : List (String × Option Json)) : List (String × Json) :=
  places.filterMap fun (name, place) => place.map (name, ·)

/-- What is in a place is a field. -/
theorem mem_present {places : List (String × Option Json)} {name : String} {value : Json} :
    (name, value) ∈ present places ↔ (name, some value) ∈ places := by
  simp only [present, List.mem_filterMap, Option.map_eq_some_iff, Prod.mk.injEq]
  constructor
  · rintro ⟨⟨other, place⟩, inside, found, rfl, rfl, rfl⟩
    exact inside
  · intro inside
    exact ⟨(name, some value), inside, value, rfl, rfl, rfl⟩

/-- A name that no place has is the name of no field. -/
theorem find?_present_none {places : List (String × Option Json)} {name : String}
    (absent : name ∉ places.map Prod.fst) : find? name (present places) = none := by
  rw [find?_eq_lookup, List.lookup_eq_none_iff]
  rintro ⟨other, value⟩ inside
  have different : name ≠ other := by
    rintro rfl
    exact absent (List.mem_map.mpr ⟨_, mem_present.mp inside, rfl⟩)
  simpa using different

section Places

variable {places : List (String × Option Json)} (names : (places.map Prod.fst).Nodup)

include names

/-- No two fields have the same name. -/
theorem names_present : ((present places).map Prod.fst).Nodup := by
  induction places with
  | nil => exact List.nodup_nil
  | cons entry places inductionHypothesis =>
    obtain ⟨name, place⟩ := entry
    obtain ⟨absent, apart⟩ := List.nodup_cons.mp names
    cases place with
    | none => exact inductionHypothesis apart
    | some value =>
      refine List.nodup_cons.mpr ⟨fun inside => absent ?_, inductionHypothesis apart⟩
      obtain ⟨⟨other, found⟩, member, rfl⟩ := List.mem_map.mp inside
      exact List.mem_map.mpr ⟨_, mem_present.mp member, rfl⟩

/-- Under the name of a place the fields have what is in it. -/
theorem find?_present {name : String} {place : Option Json} (inside : (name, place) ∈ places) :
    find? name (present places) = place := by
  induction places with
  | nil => cases inside
  | cons entry places inductionHypothesis =>
    obtain ⟨absent, apart⟩ := List.nodup_cons.mp names
    obtain rfl | later := List.mem_cons.mp inside
    · cases place with
      | none =>
        have unnamed : find? name (present places) = none := find?_present_none absent
        exact unnamed
      | some value => exact if_pos rfl
    · have rest := inductionHypothesis apart later
      obtain ⟨other, value⟩ := entry
      cases value with
      | none => exact rest
      | some value =>
        have different : other ≠ name := by
          rintro rfl
          exact absent (List.mem_map.mpr ⟨_, later, rfl⟩)
        exact (if_neg different).trans rest

end Places

namespace Layout

/-- A layout reads places in declaration order: a member that is there is decoded, and one that is
not there has a value all the same. -/
inductive Reads : {α : Type} → Layout α → List (String × Option Json) → α → Prop where
  | nothing {α : Type} (value : α) : Reads (.nothing value) [] value
  | field {α β : Type} {layout : Layout (α → β)} {member : Member α}
      {places : List (String × Option Json)} {build : α → β} {json : Json} {value : α}
      (before : Reads layout places build) (decoded : member.decode json = .ok value) :
      Reads (layout.and member) (places ++ [(member.name, some json)]) (build value)
  | blank {α β : Type} {layout : Layout (α → β)} {member : Member α}
      {places : List (String × Option Json)} {build : α → β} {value : α}
      (before : Reads layout places build) (missing : member.whenMissing = some value) :
      Reads (layout.and member) (places ++ [(member.name, none)]) (build value)

section Kinds

variable {layout : Layout (α → β)} {places : List (String × Option Json)} {build : α → β}
  {name : String} {decode : Decoder α} {json : Json} {value : α}

/-- A member that must be there reads its place. -/
theorem Reads.required (before : layout.Reads places build) (decoded : decode json = .ok value) :
    (layout.and (.required name decode)).Reads (places ++ [(name, some json)]) (build value) :=
  before.field decoded

/-- A member with a default reads its place if something is there. -/
theorem Reads.defaulted {default : α} (before : layout.Reads places build)
    (decoded : decode json = .ok value) :
    (layout.and (.defaulted name decode default)).Reads (places ++ [(name, some json)])
      (build value) :=
  before.field decoded

/-- A member with a default reads its place, and has the default if nothing is there. -/
theorem Reads.sparse {default : α} {place : Option Json} (before : layout.Reads places build)
    (decoded : ∀ json ∈ place, decode json = .ok value) (missing : place = none → value = default) :
    (layout.and (.defaulted name decode default)).Reads (places ++ [(name, place)])
      (build value) := by
  cases place with
  | some json => exact before.field (decoded json rfl)
  | none =>
    rw [missing rfl]
    exact before.blank rfl

/-- A member that an object may leave out reads its place. -/
theorem Reads.optional {layout : Layout (Option α → β)} {build : Option α → β} {value : Option α}
    (before : layout.Reads places build) (decoded : nullable decode json = .ok value) :
    (layout.and (.optional name decode)).Reads (places ++ [(name, some json)]) (build value) :=
  before.field decoded

end Kinds

variable {layout : Layout α} {places : List (String × Option Json)} {value : α}

/-- Names of which the last differs from all others. -/
theorem apart_of_nodup {name : String} {place : Option Json}
    (names : ((places ++ [(name, place)]).map Prod.fst).Nodup) :
    (places.map Prod.fst).Nodup ∧ ∀ entry ∈ places, entry.1 ≠ name := by
  rw [List.map_append, List.nodup_append] at names
  obtain ⟨earlier, -, apart⟩ := names
  refine ⟨earlier, fun entry inside => ?_⟩
  exact apart entry.1 (List.mem_map_of_mem inside) name (List.mem_singleton_self name)

/-- A field that a layout reads passes its check.

Proof: by induction on the layout. The last member checks the field of its name, and leaves every
other field to those before it. -/
theorem Reads.check (reads : layout.Reads places value) (names : (places.map Prod.fst).Nodup)
    {name : String} {json : Json} (inside : (name, some json) ∈ places) :
    layout.check name json = .ok () := by
  induction reads with
  | nothing value => cases inside
  | @field _ _ layout member places build other value before decoded inductionHypothesis =>
    obtain ⟨earlier, apart⟩ := apart_of_nodup names
    obtain old | new := List.mem_append.mp inside
    · exact (if_neg (apart _ old)).trans (inductionHypothesis earlier old)
    · obtain ⟨⟩ := List.mem_singleton.mp new
      refine (if_pos rfl).trans ?_
      rw [decoded]
      rfl
  | @blank _ _ layout member places build value before missing inductionHypothesis =>
    obtain ⟨earlier, apart⟩ := apart_of_nodup names
    obtain old | new := List.mem_append.mp inside
    · exact (if_neg (apart _ old)).trans (inductionHypothesis earlier old)
    · cases List.mem_singleton.mp new

/-- What a layout reads is built from any members among which every place is found. -/
theorem Reads.ofObject (reads : layout.Reads places value) {members : List (String × Json)}
    (found : ∀ entry ∈ places, find? entry.1 members = entry.2) :
    layout.ofObject members = .ok value := by
  induction reads with
  | nothing value => rfl
  | @field _ _ layout member places build json value before decoded inductionHypothesis =>
    have built := inductionHypothesis fun entry inside =>
      found entry (List.mem_append_left _ inside)
    have last : memberOfObject member members = .ok value := by
      have there := found (member.name, some json) (by simp)
      dsimp only at there
      rw [memberOfObject, there]
      exact decoded
    simp only [Layout.and, built, last, bind, Except.bind]
  | @blank _ _ layout member places build value before missing inductionHypothesis =>
    have built := inductionHypothesis fun entry inside =>
      found entry (List.mem_append_left _ inside)
    have last : memberOfObject member members = .ok value := by
      have absent := found (member.name, none) (by simp)
      dsimp only at absent
      rw [memberOfObject, absent, missing]
    simp only [Layout.and, built, last, bind, Except.bind]

/-- A loop over what passes a check. -/
theorem forM_ok {ε : Type} {items : List α} {check : α → Except ε Unit}
    (passes : ∀ item ∈ items, check item = .ok ()) : items.forM check = .ok () := by
  induction items with
  | nil => rfl
  | cons item items inductionHypothesis =>
    change (check item >>= fun _ => items.forM check) = .ok ()
    rw [passes item List.mem_cons_self]
    exact inductionHypothesis fun item inside => passes item (List.mem_cons_of_mem _ inside)

/-- A layout builds what it reads from members that are the fields in some order. -/
theorem Reads.fromMembers (reads : layout.Reads places value)
    (names : (places.map Prod.fst).Nodup) {members : List (String × Json)}
    (found : ∀ entry ∈ places, find? entry.1 members = entry.2)
    (known : ∀ member ∈ members, member ∈ present places) :
    layout.fromMembers members = .ok value := by
  have passes (member : String × Json) (inside : member ∈ members) :
      layout.check member.1 member.2 = .ok () :=
    reads.check names (mem_present.mp (known member inside))
  rw [Layout.fromMembers, forM_ok passes]
  exact reads.ofObject found

end Layout

/-- A member that is there once fields are inserted was there before, or is one of the fields. -/
theorem mem_of_mem_foldl_insertMember {member : String × Json} (members : List (String × Json))
    {fields : List (String × Json)}
    (inside : member ∈ fields.foldl (fun found field => insertMember field.1 field.2 found)
      members) : member ∈ members ∨ member ∈ fields := by
  induction fields generalizing members with
  | nil => exact .inl inside
  | cons field fields inductionHypothesis =>
    obtain early | late := inductionHypothesis _ inside
    · obtain rfl | old := mem_of_mem_insertMember early
      · exact .inr List.mem_cons_self
      · exact .inl old
    · exact .inr (List.mem_cons_of_mem _ late)

/-- Every member of sorted fields is one of the fields. -/
theorem mem_of_mem_sortMembers {fields : List (String × Json)} {member : String × Json}
    (inside : member ∈ sortMembers fields) : member ∈ fields :=
  (mem_of_mem_foldl_insertMember [] inside).resolve_left List.not_mem_nil

/-- A record is read from the object of its fields. -/
theorem record_ofFields {layout : Layout α} {places : List (String × Option Json)} {value : α}
    (reads : layout.Reads places value) (names : (places.map Prod.fst).Nodup)
    {fields : List (String × Json)} (same : present places = fields) (name : String) :
    record name layout (ofFields fields) = .ok value := by
  subst same
  refine reads.fromMembers names (fun entry inside => ?_) fun member => mem_of_mem_sortMembers
  rw [find?_sortMembers (names_present names)]
  exact find?_present names inside

/-- Members under other keys are found as before when those under one key are left out. -/
theorem find?_filter_ne {key other : String} (unlike : key ≠ other)
    (members : List (String × Json)) :
    find? key (members.filter fun (name, _) => name != other) = find? key members := by
  induction members with
  | nil => rfl
  | cons member members inductionHypothesis =>
    obtain ⟨name, value⟩ := member
    by_cases same : name = other
    · have skipped : name ≠ key := fun equal => unlike (equal.symm.trans same)
      simp only [List.filter_cons, same, bne_self_eq_false, Bool.false_eq_true, if_false]
      rw [inductionHypothesis, find?, if_neg (same ▸ skipped)]
    · have kept : (name != other) = true := by simpa using same
      simp only [List.filter_cons, kept, if_true, find?, inductionHypothesis]

section Tagged

variable {layout : Layout α} {places : List (String × Option Json)} {value : α}
  (names : (places.map Prod.fst).Nodup) {tag : String} (fresh : tag ∉ places.map Prod.fst)
  (label : Json)

include names fresh

/-- A tag that is none of the fields makes no two names equal. -/
theorem names_tagged : (((tag, label) :: present places).map Prod.fst).Nodup := by
  refine List.nodup_cons.mpr ⟨fun inside => fresh ?_, names_present names⟩
  obtain ⟨⟨name, json⟩, member, rfl⟩ := List.mem_map.mp inside
  exact List.mem_map.mpr ⟨_, mem_present.mp member, rfl⟩

/-- The tag of an object is found. -/
theorem find?_tagged : find? tag (sortMembers ((tag, label) :: present places)) = some label := by
  rw [find?_sortMembers (names_tagged names fresh label)]
  exact if_pos rfl

/-- A layout reads the object of a record with a tag once the tag is left out. -/
theorem Layout.Reads.untagged (reads : layout.Reads places value) :
    layout.fromMembers
      ((sortMembers ((tag, label) :: present places)).filter fun (name, _) => name != tag) =
        .ok value := by
  refine reads.fromMembers names (fun entry inside => ?_) fun member inside => ?_
  · have unlike : entry.1 ≠ tag := fun same => fresh (same ▸ List.mem_map_of_mem inside)
    rw [find?_filter_ne unlike, find?_sortMembers (names_tagged names fresh label), find?,
      if_neg unlike.symm]
    exact find?_present names inside
  · obtain ⟨sorted, kept⟩ := List.mem_filter.mp inside
    obtain rfl | field := List.mem_cons.mp (mem_of_mem_sortMembers sorted)
    · simp at kept
    · exact field

end Tagged

/-- An object of readable fields is readable, with one level more. -/
theorem readable_ofFields {levels : Nat} {fields : List (String × Json)}
    (parts : ∀ field ∈ fields, Readable levels field.2) :
    Readable (levels + 1) (ofFields fields) where
  depth := Nat.succ_le_succ (depthMembers_le.mpr fun member inside =>
    (parts member (mem_of_mem_sortMembers inside)).depth)
  canonical := by
    have values := canonicalMembers_iff.mpr fun member inside =>
      (parts member (mem_of_mem_sortMembers inside)).canonical
    simp only [ofFields, canonical, sortedKeys_sortMembers, values, Bool.and_self]
  words := hasWordsMembers_iff.mpr fun member inside =>
    (parts member (mem_of_mem_sortMembers inside)).words

end LanguageClient.Json
