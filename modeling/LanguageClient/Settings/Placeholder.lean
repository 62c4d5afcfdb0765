import LanguageClient.Json.Printer
import LanguageClient.Settings.Variables
import LanguageClient.Text.Utf8

/-!
# Placeholders

A setting may hold placeholders, written as a dollar sign and a variable name in braces. They
are expanded from left to right, each against the same variables; what a placeholder expands to
is not looked at again. The first placeholder that cannot be expanded decides the error.
-/

namespace LanguageClient

/-- Why a text cannot be expanded. -/
inductive ExpansionError where
  /-- A placeholder is not closed; the place is counted in bytes. -/
  | unterminated (offset : Nat)
  /-- No variable has this name. -/
  | unknown (name : String)
  /-- The variable exists, but nothing is known about it. -/
  | unavailable (name : String)
  /-- The setting is neither a text nor a number nor a flag. -/
  | settingNotScalar (key : String)
deriving DecidableEq, Repr

/-- Wording of an expansion error. -/
def ExpansionError.message : ExpansionError → String
  | .unterminated offset => "unterminated placeholder at byte " ++ toString offset
  | .unknown name => "unknown variable `" ++ name ++ "`"
  | .unavailable name => "variable `" ++ name ++ "` is not available"
  | .settingNotScalar key => "configuration `" ++ key ++ "` is not a scalar"

namespace Placeholder

/-- A known text, or the error for a variable about which nothing is known. -/
def known (name : List Char) : Option (List Char) → Except ExpansionError (List Char)
  | some value => .ok value
  | none => .error (.unavailable (String.ofList name))

/-- A setting as text, if it is a scalar. -/
def scalar (key : List Char) : Json → Except ExpansionError (List Char)
  | .string value => .ok value.toList
  | .number value => .ok value.write
  | .bool value => .ok (Json.write (.bool value))
  | _ => .error (.settingNotScalar (String.ofList key))

/-- A variable that depends on the active file. -/
def ofFile (bindings : Variables) (name : List Char)
    (value : List Char → Option (List Char)) : Except ExpansionError (List Char) :=
  known name (bindings.file.bind fun file => value file.toList)

/-- The value of a plain variable, one whose name has no argument after a colon. -/
def resolvePlain (bindings : Variables) (name : List Char) : Except ExpansionError (List Char) :=
  match String.ofList name with
  | "workspaceFolder" => known name (bindings.folders.head?.map (·.path.toList))
  | "workspaceFolderBasename" => known name (bindings.folders.head?.map (·.name.toList))
  | "file" => ofFile bindings name some
  | "fileWorkspaceFolder" =>
    ofFile bindings name fun file => (bindings.folderOf? file).map (·.path.toList)
  | "relativeFile" => ofFile bindings name bindings.relativeFile?
  | "relativeFileDirname" =>
    ofFile bindings name fun file =>
      (bindings.relativeFile? file).map fun relative => (Path.parent? relative).getD []
  | "fileBasename" => ofFile bindings name fun file => some ((Path.fileName? file).getD [])
  | "fileBasenameNoExtension" =>
    ofFile bindings name fun file => some ((Path.fileStem? file).getD [])
  | "fileExtname" =>
    ofFile bindings name fun file => some (((Path.extension? file).map ('.' :: ·)).getD [])
  | "fileDirname" => ofFile bindings name fun file => some ((Path.parent? file).getD [])
  | "cwd" => known name (bindings.workingDirectory.map String.toList)
  | "lineNumber" => known name (bindings.line.map fun line => Nat.toDigits 10 line.toNat)
  | "selectedText" => .ok ((bindings.selection.map String.toList).getD [])
  | "pathSeparator" => .ok ['/']
  | "userHome" => known name (bindings.home.map String.toList)
  | _ => .error (.unknown (String.ofList name))

/-- The value of a variable. An unset environment variable is empty. -/
def resolve (bindings : Variables) (name : List Char) : Except ExpansionError (List Char) :=
  match Text.after "env:".toList name with
  | some key =>
    .ok (((bindings.environment.lookup (String.ofList key)).map String.toList).getD [])
  | none =>
    match Text.after "config:".toList name with
    | some key =>
      match bindings.setting? key with
      | some value => scalar key value
      | none => .error (.unavailable (String.ofList name))
    | none =>
      match Text.after "workspaceFolder:".toList name with
      | some folder =>
        known name ((bindings.folders.find? (·.name == String.ofList folder)).map (·.path.toList))
      | none => resolvePlain bindings name

/-- Cut a text at the first opening of a placeholder. -/
def cutOpening : List Char → Option (List Char × List Char)
  | '$' :: '\x7b' :: rest => some ([], rest)
  | character :: rest => (cutOpening rest).map fun (before, after) => (character :: before, after)
  | [] => none

/-- What follows an opening is shorter than the text. -/
theorem cutOpening_shorter {text before after : List Char}
    (found : cutOpening text = some (before, after)) : after.length < text.length := by
  fun_induction cutOpening text generalizing before with
  | case1 rest =>
    simp only [Option.some.injEq, Prod.mk.injEq] at found
    simp only [found.2, List.length_cons]
    omega
  | case2 character rest _ inductionHypothesis =>
    simp only [Option.map_eq_some_iff] at found
    obtain ⟨⟨inner, left⟩, opened, same⟩ := found
    simp only [Prod.mk.injEq] at same
    have shorter := inductionHypothesis (same.2 ▸ opened)
    simp only [List.length_cons]
    omega
  | case3 => simp at found

/-- How a text begins: with no placeholder in it, with a plain part before a placeholder that is
not closed, or with a plain part before a placeholder and the rest after it. -/
inductive Front where
  | plain
  | unclosed (before : List Char)
  | placeholder (before name rest : List Char)
deriving DecidableEq, Repr

/-- Find the first placeholder of a text. -/
def front (text : List Char) : Front :=
  match cutOpening text with
  | none => .plain
  | some (before, body) =>
    match Text.cut '\x7d' body with
    | none => .unclosed before
    | some (name, rest) => .placeholder before name rest

/-- What follows a placeholder is shorter than the text. -/
theorem front_shorter {text before name rest : List Char}
    (found : front text = .placeholder before name rest) : rest.length < text.length := by
  unfold front at found
  split at found
  · nomatch found
  · rename_i opening body opened
    split at found
    · nomatch found
    · rename_i inside after closed
      obtain ⟨_, _, same⟩ := Front.placeholder.inj found
      have insideBody := Text.cut_shorter closed
      have insideText := cutOpening_shorter opened
      rw [← same]
      omega

set_option linter.unusedVariables false in
/-- Expand the placeholders of a text that starts at the given byte of the whole text. -/
def expandFrom (bindings : Variables) (offset : Nat) (text : List Char) :
    Except ExpansionError (List Char) :=
  match found : front text with
  | .plain => .ok text
  | .unclosed before => .error (.unterminated (offset + Utf8.size before))
  | .placeholder before name rest => do
    let value ← resolve bindings name
    let tail ← expandFrom bindings (offset + Utf8.size before + 2 + Utf8.size name + 1) rest
    .ok (before ++ value ++ tail)
termination_by text.length
decreasing_by exact front_shorter found

/-- Expand every placeholder of a text. -/
def expand (bindings : Variables) (text : List Char) : Except ExpansionError (List Char) :=
  expandFrom bindings 0 text

end Placeholder

end LanguageClient
