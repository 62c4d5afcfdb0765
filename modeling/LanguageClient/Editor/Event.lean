import LanguageClient.Editor.Document
import LanguageClient.Position

/-!
# Editor events

What happens to documents and editors, in the order in which the editor reports it.
-/

namespace LanguageClient

/-- One edit of a document: the replaced range, its length and the new text. -/
structure ContentChange where
  range : Range
  length : UInt32
  text : String
deriving DecidableEq, Repr

/-- Something that happened in the editor. -/
inductive EditorEvent where
  /-- Another editor became active, or none is. -/
  | activeChanged (document : Option Document)
  | opened (document : Document)
  /-- A document changed; the snapshot is taken after the change and the edits are in order. -/
  | changed (document : Document) (changes : List ContentChange)
  | closed (document : Document)
deriving DecidableEq, Repr

end LanguageClient
