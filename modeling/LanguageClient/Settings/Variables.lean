import LanguageClient.Json.Basic
import LanguageClient.Path

/-!
# Variables of placeholders

What the editor and the process know when placeholders are expanded: the workspace folders, the
active file, the caret, the environment, the settings tree and the color theme.
-/

namespace LanguageClient

/-- The kinds of color theme that an editor distinguishes. -/
inductive ColorTheme where
  | light
  | dark
  | highContrast
  | highContrastLight
deriving DecidableEq, Repr, Inhabited

/-- The theme name that the server understands. -/
def ColorTheme.preferred : ColorTheme → String
  | .dark | .highContrast => "dark"
  | .light | .highContrastLight => "light"

/-- A folder of the workspace, addressed by its name. -/
structure WorkspaceFolder where
  name : String
  path : String
deriving DecidableEq, Repr

/-- A folder named after the last component of its path. -/
def WorkspaceFolder.ofPath (path : String) : WorkspaceFolder :=
  ⟨String.ofList ((Path.fileName? path.toList).getD []), path⟩

/-- What placeholders expand to. The first workspace folder is the default one. -/
structure Variables where
  folders : List WorkspaceFolder
  file : Option String
  line : Option UInt32
  selection : Option String
  workingDirectory : Option String
  home : Option String
  environment : List (String × String)
  settings : Json
  theme : ColorTheme
deriving DecidableEq, Repr

namespace Variables

/-- Nothing is known and the theme is light. -/
def empty : Variables := ⟨[], none, none, none, none, none, [], .null, .light⟩

/-- What a process knows without an editor. -/
def ofProcess (workingDirectory home : Option String) (environment : List (String × String)) :
    Variables :=
  { empty with
    workingDirectory := workingDirectory
    home := home
    environment := environment }

/-- The first folder that holds a file, or else the first folder. -/
def folderOf? (bindings : Variables) (file : List Char) : Option WorkspaceFolder :=
  (bindings.folders.find? fun folder => Path.startsWith file folder.path.toList).or
    bindings.folders.head?

/-- The path of a file relative to its folder; a file outside its folder keeps its path. -/
def relativeFile? (bindings : Variables) (file : List Char) : Option (List Char) :=
  (bindings.folderOf? file).map fun folder =>
    (Path.relativeTo? file folder.path.toList).getD file

/-- Follow the parts of a key from one settings object to the next. -/
def follow : Json → List (List Char) → Option Json
  | node, [] => some node
  | node, part :: parts =>
    match node.member? (String.ofList part) with
    | some next => follow next parts
    | none => none

/-- The setting of a key: the member of that very name, or else the one found by following the
parts of the key between points. -/
def setting? (bindings : Variables) (key : List Char) : Option Json :=
  (bindings.settings.member? (String.ofList key)).or
    (follow bindings.settings (Text.split '.' key))

end Variables

end LanguageClient
