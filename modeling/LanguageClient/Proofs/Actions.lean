import Mathlib.Order.Defs.Unbundled

/-!
# Actions and the states they leave

An action over a state may fail, and what it did before it failed stands. A law about what an
action may do is a relation between the state before and the state after it. A relation that is
reflexive and transitive holds for a whole action as soon as it holds for its parts.
-/

namespace LanguageClient

variable {σ ε α β : Type}

/-- One step of a state after another. -/
theorem run_state_bind (step : StateM σ α) (next : α → StateM σ β) (state : σ) :
    (step >>= next) state = next (step state).1 (step state).2 :=
  rfl

/-- One action after another: a failure of the first skips the second. -/
theorem run_bind (action : ExceptT ε (StateM σ) α) (next : α → ExceptT ε (StateM σ) β) (state : σ) :
    (action >>= next).run state =
      match action.run state with
      | (.ok value, after) => (next value).run after
      | (.error cause, after) => (.error cause, after) := by
  change (match action.run state with
    | (result, after) => (match result with
      | .ok value => (next value).run
      | .error cause => pure (.error cause)) after) = _
  obtain ⟨result, after⟩ := action.run state
  cases result with
  | ok value => rfl
  | error cause => rfl

/-- The first action completes: the second goes on from where it ended. -/
theorem run_bind_ok {action : ExceptT ε (StateM σ) α} {next : α → ExceptT ε (StateM σ) β}
    {state after : σ} {value : α} (completed : action.run state = (.ok value, after)) :
    (action >>= next).run state = (next value).run after := by
  rw [run_bind, completed]

/-- The first action fails: that is how the whole ends. -/
theorem run_bind_error {action : ExceptT ε (StateM σ) α} {next : α → ExceptT ε (StateM σ) β}
    {state after : σ} {cause : ε} (failed : action.run state = (.error cause, after)) :
    (action >>= next).run state = (.error cause, after) := by
  rw [run_bind, failed]

/-- What follows a look at the state. -/
theorem run_get_bind (next : σ → ExceptT ε (StateM σ) α) (state : σ) :
    (get >>= next).run state = (next state).run state :=
  rfl

/-- What follows a replacement of the state. -/
theorem run_set_bind (next : PUnit → ExceptT ε (StateM σ) α) (state replaced : σ) :
    (set replaced >>= next).run state = (next ⟨⟩).run replaced :=
  rfl

/-- What completes consists of two actions that complete. -/
theorem of_run_bind_ok {action : ExceptT ε (StateM σ) α} {next : α → ExceptT ε (StateM σ) β}
    {state after : σ} {value : β} (completed : (action >>= next).run state = (.ok value, after)) :
    ∃ early middle, action.run state = (.ok early, middle) ∧
      (next early).run middle = (.ok value, after) := by
  cases outcome : action.run state with
  | mk result middle =>
    cases result with
    | ok early =>
      rw [run_bind_ok outcome] at completed
      exact ⟨early, middle, rfl, completed⟩
    | error cause =>
      rw [run_bind_error outcome] at completed
      cases completed

/-- An action leads from every state to one that is related to it, whether it fails or not. -/
def Leads (relation : σ → σ → Prop) (action : ExceptT ε (StateM σ) α) : Prop :=
  ∀ state, relation state (action.run state).2

namespace Leads

variable {relation weaker : σ → σ → Prop}

/-- A weaker law follows. -/
theorem mono {action : ExceptT ε (StateM σ) α} (leads : Leads relation action)
    (implied : ∀ before after, relation before after → weaker before after) :
    Leads weaker action :=
  fun state => implied state _ (leads state)

/-- A change of the state leads to what it makes of it. -/
theorem modify {change : σ → σ} (related : ∀ state, relation state (change state)) :
    Leads relation (modify change : ExceptT ε (StateM σ) PUnit) :=
  related

/-- What is done with the current state may know that it is the current one. -/
theorem get_bind {next : σ → ExceptT ε (StateM σ) α}
    (related : ∀ state, relation state ((next state).run state).2) :
    Leads relation (get >>= next) :=
  related

/-- One action after another, where each obeys a law of its own. The second may not be reached. -/
theorem bind_comp {first second whole : σ → σ → Prop} {action : ExceptT ε (StateM σ) α}
    {next : α → ExceptT ε (StateM σ) β}
    (actionLeads : Leads first action) (nextLeads : ∀ value, Leads second (next value))
    (both : ∀ {before middle after}, first before middle → second middle after → whole before after)
    (one : ∀ {before after}, first before after → whole before after) :
    Leads whole (action >>= next) := by
  intro state
  have reached := actionLeads state
  cases outcome : action.run state with
  | mk result after =>
    rw [outcome] at reached
    cases result with
    | ok value =>
      rw [run_bind_ok outcome]
      exact both reached (nextLeads value after)
    | error cause =>
      rw [run_bind_error outcome]
      exact one reached

/-- What follows an action may change nothing. -/
theorem bind_still {action : ExceptT ε (StateM σ) α} {next : α → ExceptT ε (StateM σ) β}
    (leads : Leads relation action) (still : ∀ value, Leads Eq (next value)) :
    Leads relation (action >>= next) :=
  bind_comp leads still (fun reached same => same ▸ reached) id

/-- What an action yields may be read in another way. -/
theorem bind_pure {action : ExceptT ε (StateM σ) α} (leads : Leads relation action)
    (reading : α → β) : Leads relation (action >>= fun value => pure (reading value)) :=
  leads.bind_still fun _ _ => rfl

section Closed

variable [IsPreorder σ relation]

/-- Nothing is done. -/
theorem pure (value : α) : Leads relation (pure value : ExceptT ε (StateM σ) α) :=
  fun state => refl_of relation state

/-- A failure alone does nothing. -/
theorem throw (cause : ε) : Leads relation (throw cause : ExceptT ε (StateM σ) α) :=
  fun state => refl_of relation state

/-- Looking at the state does nothing. -/
theorem get : Leads relation (get : ExceptT ε (StateM σ) σ) :=
  fun state => refl_of relation state

/-- A result from elsewhere does nothing. -/
theorem liftExcept (result : Except ε α) :
    Leads relation (liftExcept result : ExceptT ε (StateM σ) α) := by
  cases result with
  | ok value => exact pure value
  | error cause => exact throw cause

/-- One action after another. -/
theorem bind {action : ExceptT ε (StateM σ) α} {next : α → ExceptT ε (StateM σ) β}
    (first : Leads relation action) (rest : ∀ value, Leads relation (next value)) :
    Leads relation (action >>= next) :=
  bind_comp first rest (trans_of relation) id

/-- The state is replaced, and something follows. -/
theorem set_bind {next : PUnit → ExceptT ε (StateM σ) α} {state replaced : σ}
    (related : relation state replaced) (rest : Leads relation (next ⟨⟩)) :
    relation state ((set replaced >>= next).run state).2 :=
  trans_of relation related (rest replaced)

end Closed

end Leads

/-- An action does not end with a cause, from whatever state. -/
def Avoids (cause : ε) (action : ExceptT ε (StateM σ) α) : Prop :=
  ∀ state, (action.run state).1 ≠ .error cause

namespace Avoids

variable {cause : ε}

/-- A value is no failure. -/
theorem pure (value : α) : Avoids cause (pure value : ExceptT ε (StateM σ) α) :=
  nofun

/-- Looking at the state does not fail. -/
theorem get : Avoids cause (get : ExceptT ε (StateM σ) σ) :=
  nofun

/-- Replacing the state does not fail. -/
theorem set (state : σ) : Avoids cause (set state : ExceptT ε (StateM σ) PUnit) :=
  nofun

/-- Changing the state does not fail. -/
theorem modify (change : σ → σ) : Avoids cause (modify change : ExceptT ε (StateM σ) PUnit) :=
  nofun

/-- Another failure is not that one. -/
theorem throw {other : ε} (different : other ≠ cause) :
    Avoids cause (throw other : ExceptT ε (StateM σ) α) :=
  fun _ failed => different (Except.error.inj failed)

/-- One action after another. -/
theorem bind {action : ExceptT ε (StateM σ) α} {next : α → ExceptT ε (StateM σ) β}
    (first : Avoids cause action) (rest : ∀ value, Avoids cause (next value)) :
    Avoids cause (action >>= next) := by
  intro state
  have avoided := first state
  cases outcome : action.run state with
  | mk result after =>
    rw [outcome] at avoided
    cases result with
    | ok value =>
      rw [run_bind_ok outcome]
      exact rest value after
    | error other =>
      rw [run_bind_error outcome]
      exact fun same => avoided (congrArg Except.error (Except.error.inj same))

end Avoids

end LanguageClient
