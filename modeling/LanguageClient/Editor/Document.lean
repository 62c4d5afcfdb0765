import LanguageClient.Uri.FilePath

/-!
# Documents

A snapshot of an open document. Two snapshots with the same URI are the same document.
-/

namespace LanguageClient

/-- A snapshot of an open document. -/
structure Document where
  uri : Uri
  language : String
  version : Int32
  text : String
deriving DecidableEq, Repr

namespace Document

/-- The scheme of the document's URI. -/
def scheme (document : Document) : String := document.uri.scheme

/-- Whether the document was never saved. -/
def isUntitled (document : Document) : Bool := document.scheme == "untitled"

/-- The path that stands for the document: the local path that its URI names, or else the URI
without its scheme and without two slashes after it. -/
def path (document : Document) : String :=
  match document.uri.filePath? with
  | some path => String.ofList path
  | none =>
    let body := document.uri.body
    String.ofList ((Text.after ['/', '/'] body).getD body)

/-- Whether a list holds a snapshot of the same document. -/
def isAmong (document : Document) (documents : List Document) : Bool :=
  documents.any (·.uri == document.uri)

end Document

end LanguageClient
