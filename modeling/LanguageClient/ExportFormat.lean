import LanguageClient.Text.Blank

/-!
# Export formats

The formats that the server exports to, in the order in which a menu offers them.
-/

namespace LanguageClient

/-- A format that the server exports to. -/
inductive ExportFormat where
  | pdf
  | svg
  | png
  | html
  | markdown
  | text
deriving DecidableEq, Repr

namespace ExportFormat

/-- Every format, in menu order. -/
def all : List ExportFormat := [.pdf, .svg, .png, .html, .markdown, .text]

/-- The name of a format. -/
def name : ExportFormat → String
  | .pdf => "pdf"
  | .svg => "svg"
  | .png => "png"
  | .html => "html"
  | .markdown => "markdown"
  | .text => "text"

/-- The server command that exports to a format. -/
def command : ExportFormat → String
  | .pdf => "tinymist.exportPdf"
  | .svg => "tinymist.exportSvg"
  | .png => "tinymist.exportPng"
  | .html => "tinymist.exportHtml"
  | .markdown => "tinymist.exportMarkdown"
  | .text => "tinymist.exportText"

/-- The format of a name; the case of ASCII letters does not matter. -/
def ofName? (name : String) : Option ExportFormat :=
  all.find? fun format => Text.sameLetters format.name.toList name.toList

/-- Wording for a name that no format has. -/
def unknownMessage (name : String) : String := "unknown export format `" ++ name ++ "`"

end ExportFormat

end LanguageClient
