import LanguageClient.Call
import LanguageClient.Editor.Document
import LanguageClient.Settings.Variables

/-!
# The editor as the client sees it

The editor answers questions about its documents and settings and carries out calls. Every answer
may depend on all that the client did before, so it is a function of the trace; the answer to a
call sees that call as the last of the trace.
-/

namespace LanguageClient

/-- How an editor answers. -/
structure Editor where
  /-- The document of the active editor. -/
  active : Trace → Option Document
  /-- The documents of the visible editors. -/
  visible : Trace → List Document
  /-- The open documents. -/
  documents : Trace → List Document
  theme : Trace → ColorTheme
  /-- The raw value of a section of the settings. -/
  configuration : Trace → String → Option Json
  bindings : Trace → Variables
  /-- Whether the last call succeeded, or why not. -/
  outcome : Trace → Except String Unit
  /-- The template that the user named when asked. -/
  template : Trace → Option String
  /-- The folder that the user chose when asked. -/
  folder : Trace → Option String
  /-- The item that the user picked when asked. -/
  picked : Trace → Option Nat

end LanguageClient
