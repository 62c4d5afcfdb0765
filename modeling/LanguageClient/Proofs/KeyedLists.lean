/-!
# Lists of entries with keys

Those who wait for a response and the live tasks are both kept as lists of entries, each under a
key that no other entry has. Taking a key out takes at most one entry out, the one that is found
under it.
-/

namespace LanguageClient

section Keyed

variable {κ ν : Type} [BEq κ] [LawfulBEq κ] {entries : List (κ × ν)} {key : κ} {value : ν}

/-- What is found under a key is an entry. -/
theorem mem_of_lookup (found : entries.lookup key = some value) : (key, value) ∈ entries := by
  obtain ⟨above, below, split, -⟩ := List.lookup_eq_some_iff.mp found
  rw [split]
  exact List.mem_append_right _ List.mem_cons_self

/-- An entry is found when its key is there once. -/
theorem lookup_of_mem (keys : (entries.map Prod.fst).Nodup) (member : (key, value) ∈ entries) :
    entries.lookup key = some value := by
  obtain ⟨above, below, rfl⟩ := List.append_of_mem member
  refine List.lookup_eq_some_iff.mpr ⟨above, below, rfl, fun entry earlier => ?_⟩
  have apart := (List.nodup_append.mp (List.map_append ▸ keys)).2.2
  have different := apart entry.1 (List.mem_map_of_mem earlier) key (by simp)
  simpa using Ne.symm different

/-- Taking a key out takes out what is found under it, and nothing else. -/
theorem perm_without (keys : (entries.map Prod.fst).Nodup) (key : κ) :
    entries.Perm ((entries.lookup key).toList.map (key, ·) ++ entries.filter (·.1 != key)) := by
  induction entries with
  | nil => simp
  | cons entry entries inductionHypothesis =>
    obtain ⟨first, value⟩ := entry
    have unique : first ∉ entries.map Prod.fst ∧ (entries.map Prod.fst).Nodup := by
      simpa only [List.map_cons, List.nodup_cons] using keys
    by_cases same : key = first
    · subst same
      have others : entries.filter (·.1 != key) = entries := by
        rw [List.filter_eq_self]
        intro entry member
        have different : entry.1 ≠ key := fun equal =>
          unique.1 (List.mem_map.mpr ⟨entry, member, equal⟩)
        simpa using different
      simp [others]
    · have kept : (key == first) = false := by simpa using same
      have differs : (first != key) = true := by simpa using Ne.symm same
      have reordered := (inductionHypothesis unique.2).cons (first, value)
      simp only [List.lookup_cons, kept, List.filter_cons, differs, if_true]
      exact reordered.trans List.perm_middle.symm

/-- The entries under a key are what is found under it. -/
theorem filter_key (keys : (entries.map Prod.fst).Nodup) (key : κ) :
    entries.filter (·.1 == key) = (entries.lookup key).toList.map (key, ·) := by
  have taken := (perm_without keys key).filter (·.1 == key)
  have others : (entries.filter (·.1 != key)).filter (·.1 == key) = [] := by
    simp [List.filter_eq_nil_iff]
  rw [List.filter_append, others, List.append_nil] at taken
  cases found : entries.lookup key with
  | none =>
    rw [found] at taken
    exact taken.eq_nil
  | some value =>
    rw [found] at taken
    have only : ((some value).toList.map (key, ·)).filter (·.1 == key) = [(key, value)] := by simp
    rw [only] at taken
    exact taken.eq_singleton

/-- Taking a key out keeps the order of the other entries. -/
theorem filter_without {above below : List (κ × ν)}
    (keys : ((above ++ (key, value) :: below).map Prod.fst).Nodup) :
    (above ++ (key, value) :: below).filter (·.1 != key) = above ++ below := by
  have apart : key ∉ (above ++ below).map Prod.fst := by
    rw [(List.perm_middle.map Prod.fst).nodup_iff, List.map_cons, List.nodup_cons] at keys
    exact keys.1
  have others : (above ++ below).filter (·.1 != key) = above ++ below := by
    rw [List.filter_eq_self]
    intro entry member
    rw [bne_iff_ne]
    rintro rfl
    exact apart (List.mem_map_of_mem member)
  rw [← others]
  simp

/-- Taking a key out keeps the others apart and leaves it free. -/
theorem keys_without (keys : (entries.map Prod.fst).Nodup) (key : κ) :
    ((entries.filter (·.1 != key)).map Prod.fst).Nodup ∧
      key ∉ (entries.filter (·.1 != key)).map Prod.fst := by
  constructor
  · exact keys.sublist (List.filter_sublist.map Prod.fst)
  · intro member
    obtain ⟨entry, inside, equal⟩ := List.mem_map.mp member
    have different := (List.mem_filter.mp inside).2
    simp [equal] at different

end Keyed

end LanguageClient
