import LanguageClient.Json.DecodeError

/-!
# Decoding typed payloads

Decoders for the shapes that payloads are made of: texts, flags, bounded integers, lists, pairs,
enumerations and records.

A record is given as an object or as an array of its members in declaration order. In an object
the present members are decoded in the order of their keys and the first failure is reported;
members of other names are ignored; then the missing members are reported in declaration order.
In an array a member may only be missing at the end, and only if it has a default.
-/

namespace LanguageClient.Json

/-- A decoder either yields a payload or says why there is none. -/
abbrev Decoder (α : Type) := Json → Except DecodeError α

/-- Any value at all. -/
def anyValue : Decoder Json := Except.ok

/-- A text. -/
def text : Decoder String
  | .string value => .ok value
  | other => .error (.invalidType other .string)

/-- A flag. -/
def flag : Decoder Bool
  | .bool value => .ok value
  | other => .error (.invalidType other .boolean)

/-- An integer in the given bounds. A number with a fraction or exponent is never accepted. -/
def boundedInteger (least greatest : Int) (expected : Expectation) : Decoder Int
  | .number (.integer value) =>
    if least ≤ value ∧ value ≤ greatest then .ok value
    else .error (.invalidValue (.number (.integer value)) expected)
  | other => .error (.invalidType other expected)

/-- An unsigned number of sixteen bits. -/
def word16 : Decoder UInt16 := fun value =>
  (boundedInteger 0 65535 (.unsigned 16) value).map fun number => UInt16.ofNat number.toNat

/-- An unsigned number of thirty-two bits. -/
def word32 : Decoder UInt32 := fun value =>
  (boundedInteger 0 4294967295 (.unsigned 32) value).map fun number => UInt32.ofNat number.toNat

/-- A signed number of thirty-two bits. -/
def signed32 : Decoder Int32 := fun value =>
  (boundedInteger (-2147483648) 2147483647 (.signed 32) value).map Int32.ofInt

/-- A payload or `null`. -/
def nullable {α : Type} (decode : Decoder α) : Decoder (Option α)
  | .null => .ok none
  | other => (decode other).map some

/-- A list, decoded in order. -/
def list {α : Type} (decode : Decoder α) : Decoder (List α)
  | .array items => items.mapM decode
  | other => .error (.invalidType other .sequence)

/-- An array of exactly two elements. -/
def pair {α : Type} (decode : Decoder α) : Decoder (α × α)
  | .array [] => .error (.invalidLength 0 .pair)
  | .array [first] => do
    let _ ← decode first
    .error (.invalidLength 1 .pair)
  | .array [first, second] => do
    let first ← decode first
    let second ← decode second
    .ok (first, second)
  | .array (first :: second :: others) => do
    let _ ← decode first
    let _ ← decode second
    .error (.invalidLength (others.length + 2) .fewerElements)
  | other => .error (.invalidType other .pair)

/-- The value of a named variant. -/
def variant {α : Type} (variants : List (String × α)) (name : String) : Except DecodeError α :=
  match variants.find? (fun (other, _) => other == name) with
  | some (_, value) => .ok value
  | none => .error (.unknownVariant name (variants.map Prod.fst))

/-- A variant given by its name, or by an object that maps its name to `null`. -/
def enumeration {α : Type} (variants : List (String × α)) : Decoder α
  | .string name => variant variants name
  | .object [(name, value)] => do
    let chosen ← variant variants name
    if value.isNull then .ok chosen else .error (.invalidType value .unit)
  | .object members => .error (.invalidValue (.object members) .singleKey)
  | other => .error (.invalidType other .enumeration)

/-- One member of a record: its name, its decoder, the value it has when an object lacks it, and
the value it has when an array ends before it. -/
structure Member (α : Type) where
  name : String
  decode : Decoder α
  whenMissing : Option α
  whenShort : Option α

namespace Member

/-- A member that must be present. -/
def required {α : Type} (name : String) (decode : Decoder α) : Member α :=
  ⟨name, decode, none, none⟩

/-- A member that an object may leave out, but an array may not. -/
def optional {α : Type} (name : String) (decode : Decoder α) : Member (Option α) :=
  ⟨name, nullable decode, some none, none⟩

/-- A member with a default, which objects and arrays may leave out. -/
def defaulted {α : Type} (name : String) (decode : Decoder α) (default : α) : Member α :=
  ⟨name, decode, some default, some default⟩

end Member

/-- The member layout of a record, built member by member in declaration order. -/
structure Layout (α : Type) where
  /-- Number of members. -/
  size : Nat
  /-- Try a member of an object; other names are ignored. -/
  check : String → Json → Except DecodeError Unit
  /-- Build the record from the members of an object. -/
  ofObject : List (String × Json) → Except DecodeError α
  /-- Build the record from the front of an array. The expectation words a short array. -/
  ofArray : Expectation → List Json → Except DecodeError (α × List Json)

namespace Layout

/-- A record without members. -/
def nothing {α : Type} (value : α) : Layout α where
  size := 0
  check := fun _ _ => .ok ()
  ofObject := fun _ => .ok value
  ofArray := fun _ items => .ok (value, items)

/-- Build something else from the same members. -/
def map {α β : Type} (convert : α → β) (layout : Layout α) : Layout β where
  size := layout.size
  check := layout.check
  ofObject := fun members => (layout.ofObject members).map convert
  ofArray := fun expected items =>
    (layout.ofArray expected items).map fun (value, rest) => (convert value, rest)

/-- The value of a member of an object. -/
def memberOfObject {α : Type} (member : Member α) (members : List (String × Json)) :
    Except DecodeError α :=
  match find? member.name members, member.whenMissing with
  | some value, _ => member.decode value
  | none, some default => .ok default
  | none, none => .error (.missingField member.name)

/-- The value of a member at the front of what is left of an array. -/
def memberOfArray {α : Type} (member : Member α) (index : Nat) (expected : Expectation) :
    List Json → Except DecodeError (α × List Json)
  | item :: items => (member.decode item).map (·, items)
  | [] =>
    match member.whenShort with
    | some default => .ok (default, [])
    | none => .error (.invalidLength index expected)

/-- A record with one more member at the end. -/
def and {α β : Type} (layout : Layout (α → β)) (member : Member α) : Layout β where
  size := layout.size + 1
  check := fun name value =>
    if name = member.name then (member.decode value).map fun _ => () else layout.check name value
  ofObject := fun members => do
    let build ← layout.ofObject members
    let value ← memberOfObject member members
    .ok (build value)
  ofArray := fun expected items => do
    let (build, rest) ← layout.ofArray expected items
    let (value, rest) ← memberOfArray member layout.size expected rest
    .ok (build value, rest)

/-- Decode the members of an object: all present members first, then the missing ones. -/
def fromMembers {α : Type} (layout : Layout α) (members : List (String × Json)) :
    Except DecodeError α := do
  members.forM fun (name, value) => layout.check name value
  layout.ofObject members

end Layout

/-- A record of the given name and layout. -/
def record {α : Type} (name : String) (layout : Layout α) : Decoder α
  | .object members => layout.fromMembers members
  | .array items => do
    let (value, rest) ← layout.ofArray (.recordElements name layout.size) items
    if rest.isEmpty then .ok value else .error (.invalidLength items.length .fewerElements)
  | other => .error (.invalidType other (.record name))

end LanguageClient.Json
