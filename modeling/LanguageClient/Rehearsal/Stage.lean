import LanguageClient.Editor.Basic
import LanguageClient.Rehearsal.Log
import LanguageClient.Rehearsal.Values

/-!
# A scripted editor

A stage says what the editor holds, what the user answers and which calls fail. Menus are answered
from a queue, which starts anew whenever it is set.
-/

namespace LanguageClient.Rehearsal

/-- What the editor holds and how the user answers. Answers to menus count from the number of
menus that were shown when they were set. -/
structure Stage where
  active : Option Document
  visible : List Document
  documents : List Document
  theme : ColorTheme
  sections : List (String × Json)
  bindings : Variables
  template : Option String
  folder : Option String
  picks : List (Option Nat)
  picksBefore : Nat
  failures : List (String × String)
deriving DecidableEq, Repr

namespace Stage

/-- An editor that holds nothing. -/
def empty : Stage := ⟨none, [], [], .light, [], .empty, none, none, [], 0, []⟩

/-- Whether a call shows a menu. -/
def isMenu : Call → Bool
  | .editor (.pick _ _) => true
  | _ => false

/-- Number of menus shown. -/
def menus (trace : Trace) : Nat := trace.countP isMenu

/-- The scripted failure of the last call, if it is one that can fail. -/
def failure? (stage : Stage) (trace : Trace) : Option String :=
  match trace.getLast? with
  | some (.editor call) => stage.failures.lookup (Log.editorCall call).1
  | _ => none

/-- The editor that follows a stage. -/
def editor (stage : Stage) : Editor where
  active := fun _ => stage.active
  visible := fun _ => stage.visible
  documents := fun _ => stage.documents
  theme := fun _ => stage.theme
  configuration := fun _ key => Json.find? key stage.sections
  bindings := fun _ => stage.bindings
  outcome := fun trace =>
    match stage.failure? trace with
    | some reason => .error reason
    | none => .ok ()
  template := fun _ => stage.template
  folder := fun _ => stage.folder
  picked := fun trace => (stage.picks[menus trace - 1 - stage.picksBefore]?).join

/-- Overwrite what a description gives; a `null` clears. -/
def overwrite (stage : Stage) (shown : Nat) (input : Json) : Described Stage := do
  let given {α : Type} (reader : Reader α) (name : String) (cleared kept : α) : Described α :=
    if (input.member? name).isSome then defaulted reader input name cleared else .ok kept
  let active ← given (Read.nullable Read.document) "active" none stage.active
  let visible ← given Read.documents "visible" [] stage.visible
  let documents ← given Read.documents "documents" [] stage.documents
  let theme ← given Read.theme "theme" .light stage.theme
  let sections ← given Read.members "sections" [] stage.sections
  let bindings ← given Read.bindings "context" .empty stage.bindings
  let template ← given (Read.nullable Read.text) "template" none stage.template
  let folder ← given (Read.nullable Read.text) "folder" none stage.folder
  let picks ← given (Read.list (Read.nullable Read.nat)) "picks" [] stage.picks
  let picksBefore ← given (fun _ _ => .ok shown) "picks" shown stage.picksBefore
  let failures ← given Read.textMembers "fail" [] stage.failures
  return ⟨active, visible, documents, theme, sections, bindings, template, folder, picks,
    picksBefore, failures⟩

end Stage

end LanguageClient.Rehearsal
