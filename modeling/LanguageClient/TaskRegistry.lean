import LanguageClient.Text.Quoted

/-!
# Live tasks

A registry of live tasks in the order of their registration. Every task has a teardown that must
happen exactly once: the registry hands it out when the task is disposed and keeps it no longer.
An identifier can be registered again once its task is disposed.
-/

namespace LanguageClient

/-- A registration was rejected because the identifier is live. -/
structure DuplicateTask where
  id : String
deriving DecidableEq, Repr

/-- Wording of a rejected registration. -/
def DuplicateTask.message (duplicate : DuplicateTask) : String :=
  "task " ++ duplicate.id ++ " is already registered"

/-- Live tasks with their teardowns, in the order of their registration. -/
structure TaskRegistry (Teardown : Type) where
  tasks : List (String × Teardown)
deriving DecidableEq, Repr

namespace TaskRegistry

variable {Teardown : Type}

/-- No task is live. -/
def empty : TaskRegistry Teardown := ⟨[]⟩

/-- The live identifiers in the order of their registration. -/
def ids (registry : TaskRegistry Teardown) : List String := registry.tasks.map Prod.fst

/-- Whether an identifier is live. -/
def contains (registry : TaskRegistry Teardown) (id : String) : Bool := registry.ids.contains id

/-- Register a task. A live identifier is rejected and keeps its teardown. -/
def register (registry : TaskRegistry Teardown) (id : String) (teardown : Teardown) :
    Except DuplicateTask (TaskRegistry Teardown) :=
  if registry.contains id then .error ⟨id⟩ else .ok ⟨registry.tasks ++ [(id, teardown)]⟩

/-- Dispose a task: its teardown, if it was live, and the registry without it. -/
def dispose (registry : TaskRegistry Teardown) (id : String) :
    Option Teardown × TaskRegistry Teardown :=
  (registry.tasks.lookup id, ⟨registry.tasks.filter (·.1 != id)⟩)

/-- Dispose all tasks: their teardowns in the order of registration. -/
def disposeAll (registry : TaskRegistry Teardown) : List Teardown × TaskRegistry Teardown :=
  (registry.tasks.map Prod.snd, empty)

/-- The live identifiers as shown to a developer. -/
def describe (registry : TaskRegistry Teardown) : String := Text.quotedSet registry.ids

end TaskRegistry

end LanguageClient
