import LanguageClient.Editor.Document

/-!
# The main file

The server compiles one main file. Which one it is follows the editor: events go in, and at most
one effect comes out of each. The path of the main file and the document that it was taken from
are tracked separately; the document survives a change that only clears the path, as long as it
is open.
-/

namespace LanguageClient

/-- The path announced as main file, and the document it was taken from. -/
structure FocusState where
  path : Option String
  document : Option Document
deriving DecidableEq, Repr

/-- What a change of focus asks for: announce a main file, or that there is none, and show or
hide the indicator. -/
structure FocusEffect where
  main : Option String
  indicator : Bool
deriving DecidableEq, Repr

namespace FocusState

/-- Nothing is focused. -/
def unfocused : FocusState := ⟨none, none⟩

/-- The effect of being in a state, given the open documents. -/
def effect (state : FocusState) (opened : List Document) : FocusEffect :=
  ⟨state.path, state.path.isSome || state.document.any (·.isAmong opened)⟩

/-- Whether a document has the primary language. -/
def isPrimary (primary : String) (document : Document) : Bool := document.language == primary

/-- Focus a path. A path takes the given document with it; a document that is not open is
dropped. -/
def activatePath (state : FocusState) (document : Option Document) (path : Option String)
    (opened : List Document) : FocusState × FocusEffect :=
  let tracked := if path.isSome then document else state.document
  let next : FocusState := ⟨path, tracked.filter (·.isAmong opened)⟩
  (next, next.effect opened)

/-- Focus a document by its path, or nothing. -/
def activateDocument (state : FocusState) (document : Option Document) (opened : List Document) :
    FocusState × FocusEffect :=
  state.activatePath document (document.map Document.path) opened

/-- The first focus: the active document if it is primary, or else the first visible document
that is. -/
def initial (state : FocusState) (primary : String) (active : Option Document)
    (visible opened : List Document) : FocusState × FocusEffect :=
  state.activateDocument
    ((active.filter (isPrimary primary)).or (visible.find? (isPrimary primary))) opened

/-- Another editor became active. A document that was never saved is left to its opening. -/
def activeChanged (state : FocusState) (primary : String) (active : Option Document)
    (opened : List Document) : FocusState × Option FocusEffect :=
  if active.any Document.isUntitled then (state, none)
  else
    let (next, effect) := state.activateDocument (active.filter (isPrimary primary)) opened
    (next, some effect)

/-- The main file of a document that was never saved. -/
def untitledPath (document : Document) : String := "/untitled/" ++ document.path

/-- A document was opened. Only one that was never saved and is active moves the focus. -/
def documentOpened (state : FocusState) (primary : String) (document : Document)
    (active : Option Document) (opened : List Document) : FocusState × Option FocusEffect :=
  if document.isUntitled && active.any (·.uri == document.uri) then
    let (next, effect) :=
      if isPrimary primary document then
        state.activatePath (some document) (some (untitledPath document)) opened
      else state.activateDocument none opened
    (next, some effect)
  else (state, none)

/-- A document was closed. Closing the tracked document clears the focus. -/
def documentClosed (state : FocusState) (document : Document) :
    FocusState × Option FocusEffect :=
  if state.document.any (·.uri == document.uri) then
    (unfocused, some (unfocused.effect []))
  else (state, none)

end FocusState

end LanguageClient
