import LanguageClient.Settings.Placeholder

/-!
# Which settings are substituted

Only a few keys are substituted before the server sees their values: the color theme is replaced
by the preferred theme, and paths are expanded. A key counts with and without the name of the
section in front. A text that cannot be expanded is kept as it is.
-/

namespace LanguageClient.Settings

/-- How the value of a key is substituted. -/
inductive Policy where
  | theme
  | scalarPath
  | pathList
  | verbatim
deriving DecidableEq, Repr

/-- The policy of a key. Keys are compared exactly. -/
def Policy.of (key : String) : Policy :=
  match key with
  | "colorTheme" | "tinymist.colorTheme" => .theme
  | "serverPath" | "tinymist.serverPath" | "rootPath" | "tinymist.rootPath" | "outputPath"
  | "tinymist.outputPath" => .scalarPath
  | "fontPaths" | "tinymist.fontPaths" => .pathList
  | _ => .verbatim

/-- Expand a text; a text that cannot be expanded and any other value stay as they are. -/
def expandValue (bindings : Variables) : Json → Json
  | .string text =>
    match Placeholder.expand bindings text.toList with
    | .ok expanded => .string (String.ofList expanded)
    | .error _ => .string text
  | other => other

/-- Expand the items of a list, or a single value. -/
def expandList (bindings : Variables) : Json → Json
  | .array items => .array (items.map (expandValue bindings))
  | other => expandValue bindings other

/-- Substitute the value of a key according to its policy. The theme is set even without a value. -/
def substitute (bindings : Variables) (key : String) (value : Option Json) : Option Json :=
  match Policy.of key with
  | .theme => some (.string bindings.theme.preferred)
  | .scalarPath => value.map (expandValue bindings)
  | .pathList => value.map (expandList bindings)
  | .verbatim => value

/-- Substitute values in step with their keys. A value without a key stays as it is. -/
def substituteAll (bindings : Variables) :
    List (Option String) → List (Option Json) → List (Option Json)
  | _, [] => []
  | [], values => values
  | some key :: keys, value :: values =>
    substitute bindings key value :: substituteAll bindings keys values
  | none :: keys, value :: values => value :: substituteAll bindings keys values

end LanguageClient.Settings
