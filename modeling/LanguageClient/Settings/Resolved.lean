import LanguageClient.Settings.Basic
import LanguageClient.Settings.Policy

/-!
# Resolved settings

The raw settings section comes from the editor as JSON. Resolving it substitutes every entry twice,
so that placeholders in values that the first pass produced are expanded as well, and always
adds the color theme. The result goes to the server when it is started, and the client reads its
own settings from it.
-/

namespace LanguageClient.Settings

/-- One entry of the raw section: a key and its value, if it has one. -/
structure Entry where
  key : String
  value : Option Json
deriving DecidableEq, Repr

/-- The entries of a raw section, in the order of their keys. Only an object has entries. -/
def entries : Json → List Entry
  | .object members => members.map fun (key, value) => ⟨key, some value⟩
  | _ => []

/-- The entries of a raw section, with an entry for the color theme in any case. -/
def entriesWithTheme (raw : Json) : List Entry :=
  let found := entries raw
  if found.any (·.key == "colorTheme") then found else found ++ [⟨"colorTheme", none⟩]

/-- Settings after substitution, by key. -/
structure Resolved where
  values : List (String × Json)
deriving DecidableEq, Repr

namespace Resolved

/-- Nothing is set. -/
def empty : Resolved := ⟨[]⟩

/-- The JSON form that the server receives. -/
def toJson (resolved : Resolved) : Json := .object resolved.values

/-- The typed view. A `null` counts as unset; a section with a setting of the wrong type gives
the defaults. -/
def settings (resolved : Resolved) : Settings :=
  match decode (.object (resolved.values.filter fun (_, value) => !value.isNull)) with
  | .ok settings => settings
  | .error _ => .default

end Resolved

/-- The members that resolved values contribute. -/
def present : List String → List (Option Json) → List (String × Json)
  | key :: keys, some value :: values => (key, value) :: present keys values
  | _ :: keys, none :: values => present keys values
  | _, _ => []

/-- Resolve a raw section. -/
def resolve (bindings : Variables) (raw : Json) : Resolved :=
  let found := entriesWithTheme raw
  let keys := found.map (·.key)
  let pass := substituteAll bindings (keys.map some)
  ⟨Json.sortMembers (present keys (pass (pass (found.map (·.value)))))⟩

end LanguageClient.Settings
