/-!
# Code lens actions

A code lens carries a tag. The actions are a closed set; one of them offers all the others in a
menu.
-/

namespace LanguageClient

/-- The action of a code lens. -/
inductive CodeLens where
  | preview
  | previewInBrowser
  | exportPdf
  | exportAs
  | more
deriving DecidableEq, Repr

namespace CodeLens

/-- Every action. -/
def all : List CodeLens := [.preview, .previewInBrowser, .exportPdf, .exportAs, .more]

/-- The actions that the menu offers. -/
def offered : List CodeLens := [.preview, .previewInBrowser, .exportPdf, .exportAs]

/-- The tag of an action. -/
def tag : CodeLens → String
  | .preview => "preview"
  | .previewInBrowser => "preview-in"
  | .exportPdf => "export-pdf"
  | .exportAs => "export-as"
  | .more => "more"

/-- The label of an action in the menu. -/
def label : CodeLens → String
  | .preview => "Preview"
  | .previewInBrowser => "Preview in browser"
  | .exportPdf => "Export PDF"
  | .exportAs => "Export as..."
  | .more => "More..."

/-- The action of a tag. -/
def ofTag? (tag : String) : Option CodeLens := all.find? fun action => action.tag == tag

end CodeLens

end LanguageClient
