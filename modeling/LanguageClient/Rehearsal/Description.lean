import LanguageClient.Rpc.Error

/-!
# Descriptions

A rehearsal is described in JSON. Members of a description have defaults, and a `null` counts as a
missing member. A description that cannot be used is refused with a complaint, which names the
member at fault where there is one.
-/

namespace LanguageClient.Rehearsal

/-- Why a description cannot be used. -/
inductive Complaint where
  | member (name : String)
  | invalidUri
  | message (cause : Rpc.TransportError)
deriving DecidableEq, Repr

/-- What a description says, or the complaint about it. -/
abbrev Described := Except Complaint

/-- How a member of a name is read. -/
abbrev Reader (α : Type) := String → Json → Described α

/-- Refuse a description for one of its members. -/
def complain {α : Type} (name : String) : Described α := .error (.member name)

namespace Read

/-- Any value. -/
def any : Reader Json := fun _ value => .ok value

/-- A text. -/
def text : Reader String
  | _, .string found => .ok found
  | name, _ => complain name

/-- A truth value. -/
def bool : Reader Bool
  | _, .bool found => .ok found
  | name, _ => complain name

/-- An integer. -/
def int : Reader Int
  | _, .number (.integer found) => .ok found
  | name, _ => complain name

/-- A natural number. -/
def nat : Reader Nat
  | _, .number (.integer (.ofNat found)) => .ok found
  | name, _ => complain name

/-- A natural number that fits a word. -/
def word : Reader UInt32 := fun name value => (nat name value).map UInt32.ofNat

/-- An array of values that are read alike. -/
def list {α : Type} (reader : Reader α) : Reader (List α)
  | name, .array items => items.mapM (reader name)
  | name, _ => complain name

/-- An array of texts. -/
def texts : Reader (List String) := list text

/-- The members of an object. -/
def members : Reader (List (String × Json))
  | _, .object found => .ok found
  | name, _ => complain name

/-- The members of an object whose values are texts. -/
def textMembers : Reader (List (String × String)) := fun name value => do
  let found ← members name value
  found.mapM fun (key, value) => (text name value).map (key, ·)

/-- A value that may be absent: the empty array, or the array of the value. -/
def maybe : Reader (Option Json)
  | _, .array [] => .ok none
  | _, .array [value] => .ok (some value)
  | name, _ => complain name

/-- A value that may be `null`. -/
def nullable {α : Type} (reader : Reader α) : Reader (Option α)
  | _, .null => .ok none
  | name, value => (reader name value).map some

/-- One of several named values. -/
def oneOf {α : Type} (choices : List (String × α)) : Reader α := fun name value =>
  match value.text?.bind fun found => choices.lookup found with
  | some choice => .ok choice
  | none => complain name

end Read

/-- The value of a member, or `null`. -/
def valueOf (input : Json) (name : String) : Json := Json.orNull (input.member? name)

/-- A member that may be missing or `null`. -/
def optional {α : Type} (reader : Reader α) (input : Json) (name : String) :
    Described (Option α) :=
  Read.nullable reader name (valueOf input name)

/-- A member that may be missing or `null`, with a default. -/
def defaulted {α : Type} (reader : Reader α) (input : Json) (name : String) (default : α) :
    Described α :=
  (optional reader input name).map (·.getD default)

/-- A member that must be there. -/
def required {α : Type} (reader : Reader α) (input : Json) (name : String) : Described α := do
  match ← optional reader input name with
  | some found => .ok found
  | none => complain name

/-- A text that must be there. -/
def textOf (input : Json) (name : String) : Described String := required Read.text input name

end LanguageClient.Rehearsal
