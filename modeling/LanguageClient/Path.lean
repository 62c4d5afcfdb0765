import LanguageClient.Text.Split

/-!
# Unix paths

A path is a text. It reads as a head and segments between slashes. The head is the root of an
absolute path, a leading dot of a relative path, or nothing. Empty segments and single dots
after the head do not count; two dots go to the parent directory and are kept as they are.

Two paths are the same place in the tree when they have the same components. Operations that cut
a path keep the text of what is left, so repeated slashes inside it survive.
-/

namespace LanguageClient.Path

/-- One step of a path. -/
inductive Component where
  | root
  | current
  | parent
  | normal (name : List Char)
deriving DecidableEq, Repr

/-- How a path starts. -/
inductive Head where
  | root
  | current
  | nothing
deriving DecidableEq, Repr

/-- The text of a head. -/
def Head.text : Head → List Char
  | .root => ['/']
  | .current => ['.']
  | .nothing => []

/-- The component that a head stands for. -/
def Head.components : Head → List Component
  | .root => [.root]
  | .current => [.current]
  | .nothing => []

/-- The head of a path and the text after it. -/
def splitHead : List Char → Head × List Char
  | '/' :: rest => (.root, rest)
  | ['.'] => (.current, [])
  | '.' :: '/' :: rest => (.current, '/' :: rest)
  | text => (.nothing, text)

/-- The segments after the head, in order. -/
def segments (path : List Char) : List (List Char) := Text.split '/' (splitHead path).2

/-- Segments that do not count. -/
def isIgnored (segment : List Char) : Bool := segment == [] || segment == ['.']

/-- The component that a counting segment stands for. -/
def component (segment : List Char) : Component :=
  if segment = ['.', '.'] then .parent else .normal segment

/-- The components of a path. -/
def components (path : List Char) : List Component :=
  (splitHead path).1.components ++ ((segments path).filter (!isIgnored ·)).map component

/-- Whether a path starts at the root. -/
def isAbsolute : List Char → Bool
  | '/' :: _ => true
  | _ => false

/-- Drop segments that do not count from the end. -/
def trimSegments (segments : List (List Char)) : List (List Char) :=
  (segments.reverse.dropWhile isIgnored).reverse

/-- A path from its head and segments. -/
def assemble (head : Head) (segments : List (List Char)) : List Char :=
  head.text ++ Text.join '/' segments

/-- The path without its last component; the root and the empty path have no parent. -/
def parent? (path : List Char) : Option (List Char) :=
  let head := (splitHead path).1
  match (segments path).reverse.dropWhile isIgnored with
  | _ :: before => some (assemble head (before.dropWhile isIgnored).reverse)
  | [] =>
    match head with
    | .current => some []
    | .root | .nothing => none

/-- The last component, if it is a name. -/
def fileName? (path : List Char) : Option (List Char) :=
  match (components path).getLast? with
  | some (.normal name) => some name
  | _ => none

/-- A name cut at its last dot. A name without a dot, or with its only dot in front, has no
extension. -/
def cutExtension (name : List Char) : List Char × Option (List Char) :=
  match Text.cut '.' name.reverse with
  | some (extension, stem) =>
    if stem.isEmpty then (name, none) else (stem.reverse, some extension.reverse)
  | none => (name, none)

/-- The file name without its extension. -/
def fileStem? (path : List Char) : Option (List Char) :=
  (fileName? path).map fun name => (cutExtension name).1

/-- The extension of the file name, without the dot. -/
def extension? (path : List Char) : Option (List Char) :=
  (fileName? path).bind fun name => (cutExtension name).2

/-- Whether a path lies at or below a base, component by component. -/
def startsWith (path base : List Char) : Bool := (components base).isPrefixOf (components path)

/-- Drop the segments of the given number of components. -/
def dropComponents : Nat → List (List Char) → List (List Char)
  | 0, segments => segments
  | _ + 1, [] => []
  | count + 1, segment :: segments =>
    if isIgnored segment then dropComponents (count + 1) segments
    else dropComponents count segments

/-- The path relative to a base that it lies at or below. -/
def relativeTo? (path base : List Char) : Option (List Char) :=
  let head := (splitHead path).1
  if !startsWith path base then none
  else if (components base).isEmpty then some (assemble head (trimSegments (segments path)))
  else
    let inside := (components base).length - head.components.length
    let rest := (dropComponents inside (segments path)).dropWhile isIgnored
    some (assemble .nothing (trimSegments rest))

/-- Append a path to a base. An absolute path replaces the base. -/
def join (base path : List Char) : List Char :=
  if isAbsolute path then path
  else if base.isEmpty || base.getLast? == some '/' then base ++ path
  else base ++ '/' :: path

end LanguageClient.Path
