import LanguageClient.Settings.Resolved
import LanguageClient.Uri.Basic

/-!
# Configuration pulls

The server asks for sections of the configuration. Every item is answered by exactly one value,
in the order of the items: the value that the editor has for the section, substituted by the
policy of its key, or `null`. An item that asks for the whole section of this client gets the
resolved section.
-/

namespace LanguageClient.Settings

/-- One requested item: the key of a section. The scope is accepted and not used. -/
structure PullItem where
  scopeUri : Option Uri
  key : Option String
deriving DecidableEq, Repr

/-- Members of a requested item. -/
def PullItem.layout : Json.Layout PullItem :=
  (Json.Layout.nothing PullItem.mk).and (.optional "scopeUri" Uri.decode)
    |>.and (.optional "section" Json.text)

/-- Read a requested item. -/
def PullItem.decode : Json.Decoder PullItem := Json.record "ConfigurationItem" PullItem.layout

/-- A request for items of the configuration. -/
structure Pull where
  items : List PullItem
deriving DecidableEq, Repr

/-- Members of a pull. -/
def Pull.layout : Json.Layout Pull :=
  (Json.Layout.nothing Pull.mk).and (.required "items" (Json.list PullItem.decode))

/-- Read a pull. -/
def Pull.decode : Json.Decoder Pull := Json.record "ConfigurationParams" Pull.layout

/-- Turn a substituted value into the answer for its key. -/
def answer (bindings : Variables) : Option String → Option Json → Json
  | some key, some (.object members) =>
    if key = sectionName then (resolve bindings (.object members)).toJson else .object members
  | _, value => Json.orNull value

/-- Answer a pull item by item, given what the editor has for a section. -/
def Pull.answers (pull : Pull) (lookup : String → Option Json) (bindings : Variables) :
    List Json :=
  let keys := pull.items.map (·.key)
  let raw := keys.map fun key => key.bind lookup
  List.zipWith (answer bindings) keys (substituteAll bindings keys raw)

end LanguageClient.Settings
