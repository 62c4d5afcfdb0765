/-!
# Histories

What happened is a list, and grows at its end. That something occurred is said of one element of
the list, given all that came before it; so what occurred with one element more either occurred
before or occurs with it.
-/

namespace LanguageClient

variable {α : Type}

/-- In a history there is an element of which something is true, given what came before it. -/
def Occurred (event : List α → α → Prop) (history : List α) : Prop :=
  ∃ before moment after, history = before ++ moment :: after ∧ event before moment

/-- In a history with a last element, any element stands at the end or before it. -/
theorem snoc_eq_split {history before after : List α} {last moment : α} :
    history ++ [last] = before ++ moment :: after ↔
      (history = before ∧ last = moment ∧ after = []) ∨
        ∃ rest, history = before ++ moment :: rest ∧ after = rest ++ [last] := by
  constructor
  · intro same
    obtain rfl | ⟨rest, final, rfl⟩ := List.eq_nil_or_concat after
    · obtain ⟨front, back⟩ := List.append_inj' same rfl
      exact .inl ⟨front, by simpa using back, rfl⟩
    · rw [List.concat_eq_append, ← List.cons_append, ← List.append_assoc] at same
      obtain ⟨front, back⟩ := List.append_inj' same rfl
      exact .inr ⟨rest, front, by simpa using back.symm⟩
  · rintro (⟨rfl, rfl, rfl⟩ | ⟨rest, rfl, rfl⟩)
    · rfl
    · simp

/-- What occurred with one element more occurred before or with that element. -/
theorem occurred_snoc {event : List α → α → Prop} {history : List α} {last : α} :
    Occurred event (history ++ [last]) ↔ Occurred event history ∨ event history last := by
  constructor
  · rintro ⟨before, moment, after, split, holds⟩
    obtain ⟨rfl, rfl, rfl⟩ | ⟨rest, rfl, rfl⟩ := snoc_eq_split.mp split
    · exact .inr holds
    · exact .inl ⟨before, moment, rest, rfl, holds⟩
  · rintro (⟨before, moment, after, rfl, holds⟩ | holds)
    · exact ⟨before, moment, after ++ [last], by simp, holds⟩
    · exact ⟨history, last, [], rfl, holds⟩

end LanguageClient
