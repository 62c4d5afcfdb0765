import LanguageClient.Json.Number

/-!
# JSON values

Values of the data format that travels between the client and the server. The members of an
object are kept as a list of pairs; a canonical object has its keys in strictly ascending order,
and building an object from fields makes it canonical, with the last of several fields of one
key winning.
-/

namespace LanguageClient

/-- A JSON value. -/
inductive Json where
  | null
  | bool (value : Bool)
  | number (value : Json.Number)
  | string (value : String)
  | array (items : List Json)
  | object (members : List (String × Json))
deriving Repr, Inhabited

namespace Json

mutual

/-- Equality of values is decidable. -/
def decideEqual (left right : Json) : Decidable (left = right) :=
  match left, right with
  | .null, .null => isTrue rfl
  | .bool first, .bool second =>
    if same : first = second then isTrue (same ▸ rfl) else isFalse (by simp [same])
  | .number first, .number second =>
    if same : first = second then isTrue (same ▸ rfl) else isFalse (by simp [same])
  | .string first, .string second =>
    if same : first = second then isTrue (same ▸ rfl) else isFalse (by simp [same])
  | .array first, .array second =>
    match decideEqualItems first second with
    | isTrue same => isTrue (same ▸ rfl)
    | isFalse different => isFalse (by simp [different])
  | .object first, .object second =>
    match decideEqualMembers first second with
    | isTrue same => isTrue (same ▸ rfl)
    | isFalse different => isFalse (by simp [different])
  | .null, .bool _ | .null, .number _ | .null, .string _ | .null, .array _ | .null, .object _
  | .bool _, .null | .bool _, .number _ | .bool _, .string _ | .bool _, .array _
  | .bool _, .object _ | .number _, .null | .number _, .bool _ | .number _, .string _
  | .number _, .array _ | .number _, .object _ | .string _, .null | .string _, .bool _
  | .string _, .number _ | .string _, .array _ | .string _, .object _ | .array _, .null
  | .array _, .bool _ | .array _, .number _ | .array _, .string _ | .array _, .object _
  | .object _, .null | .object _, .bool _ | .object _, .number _ | .object _, .string _
  | .object _, .array _ => isFalse (by simp)

/-- Equality of item lists is decidable. -/
def decideEqualItems (left right : List Json) : Decidable (left = right) :=
  match left, right with
  | [], [] => isTrue rfl
  | [], _ :: _ => isFalse (by simp)
  | _ :: _, [] => isFalse (by simp)
  | first :: firsts, second :: seconds =>
    match decideEqual first second, decideEqualItems firsts seconds with
    | isTrue same, isTrue sameRest => isTrue (by rw [same, sameRest])
    | isFalse different, _ => isFalse (by simp [different])
    | _, isFalse different => isFalse (by simp [different])

/-- Equality of member lists is decidable. -/
def decideEqualMembers (left right : List (String × Json)) : Decidable (left = right) :=
  match left, right with
  | [], [] => isTrue rfl
  | [], _ :: _ => isFalse (by simp)
  | _ :: _, [] => isFalse (by simp)
  | (firstKey, first) :: firsts, (secondKey, second) :: seconds =>
    if sameKey : firstKey = secondKey then
      match decideEqual first second, decideEqualMembers firsts seconds with
      | isTrue same, isTrue sameRest => isTrue (by rw [sameKey, same, sameRest])
      | isFalse different, _ => isFalse (by simp [different])
      | _, isFalse different => isFalse (by simp [different])
    else isFalse (by simp [sameKey])

end

instance : DecidableEq Json := decideEqual

mutual

/-- Levels of arrays and objects inside one another. -/
def depth : Json → Nat
  | .array items => depthItems items + 1
  | .object members => depthMembers members + 1
  | .null | .bool _ | .number _ | .string _ => 0

/-- The greatest depth among items. -/
def depthItems : List Json → Nat
  | [] => 0
  | item :: items => max (depth item) (depthItems items)

/-- The greatest depth among members. -/
def depthMembers : List (String × Json) → Nat
  | [] => 0
  | (_, value) :: members => max (depth value) (depthMembers members)

end

/-- The value of the first member with the given key. -/
def find? (key : String) : List (String × Json) → Option Json
  | [] => none
  | (other, value) :: members => if other = key then some value else find? key members

/-- Put a member into a sorted member list, replacing a member of the same key. -/
def insertMember (key : String) (value : Json) : List (String × Json) → List (String × Json)
  | [] => [(key, value)]
  | (other, present) :: members =>
    if key = other then (key, value) :: members
    else if key < other then (key, value) :: (other, present) :: members
    else (other, present) :: insertMember key value members

/-- Sort fields by key; the last of several fields of one key wins. -/
def sortMembers (fields : List (String × Json)) : List (String × Json) :=
  fields.foldl (fun members (key, value) => insertMember key value members) []

/-- The object with the given fields. -/
def ofFields (fields : List (String × Json)) : Json := .object (sortMembers fields)

/-- The member of an object with the given key; any other value has no members. -/
def member? (value : Json) (key : String) : Option Json :=
  match value with
  | .object members => find? key members
  | _ => none

/-- The text of a string value. -/
def text? : Json → Option String
  | .string value => some value
  | _ => none

/-- Whether a value is `null`. -/
def isNull : Json → Bool
  | .null => true
  | _ => false

/-- A present value, unless it is `null`. -/
def nonNull? : Option Json → Option Json
  | some .null => none
  | other => other

/-- A value, or `null` when there is none. -/
def orNull (value : Option Json) : Json := value.getD .null

/-- A text, or `null` when there is none. -/
def ofText? : Option String → Json
  | some text => .string text
  | none => .null

/-- A natural number as a value. -/
def ofNat (value : Nat) : Json := .number (.integer value)

/-- An integer as a value. -/
def ofInt (value : Int) : Json := .number (.integer value)

/-- Texts as an array of strings. -/
def ofTexts (texts : List String) : Json := .array (texts.map .string)

/-- The keys of a member list are in strictly ascending order. -/
def sortedKeys : List (String × Json) → Bool
  | [] => true
  | [_] => true
  | (first, _) :: (second, value) :: members =>
    first < second && sortedKeys ((second, value) :: members)

mutual

/-- Every object inside the value has its keys in strictly ascending order. -/
def canonical : Json → Bool
  | .array items => canonicalItems items
  | .object members => sortedKeys members && canonicalMembers members
  | .null | .bool _ | .number _ | .string _ => true

/-- Every item is canonical. -/
def canonicalItems : List Json → Bool
  | [] => true
  | item :: items => canonical item && canonicalItems items

/-- Every member value is canonical. -/
def canonicalMembers : List (String × Json) → Bool
  | [] => true
  | (_, value) :: members => canonical value && canonicalMembers members

end

end Json

end LanguageClient
