import LanguageClient.Json.Printer
import LanguageClient.Text.Quoted

/-!
# Why a value does not decode

A typed payload is decoded from a JSON value. Each way to fail is a cause with the data that its
wording needs; the wording itself is given once, by `DecodeError.message`.
-/

namespace LanguageClient.Json

/-- What a decoder expects to find. -/
inductive Expectation where
  | string
  | boolean
  | unsigned (bits : Nat)
  | signed (bits : Nat)
  | sequence
  | unit
  | record (name : String)
  | enumeration
  | pair
  | taggedUnion (name : String)
  | variantIdentifier
  | singleKey
  | recordElements (name : String) (count : Nat)
  | variantElements (union variant : String) (count : Nat)
  | fewerElements
  | elements (count : Nat)
deriving DecidableEq, Repr

/-- A count of elements. -/
def countElements (count : Nat) : String :=
  toString count ++ (if count = 1 then " element" else " elements")

/-- Wording of an expectation. -/
def Expectation.text : Expectation → String
  | .string => "a string"
  | .boolean => "a boolean"
  | .unsigned bits => "u" ++ toString bits
  | .signed bits => "i" ++ toString bits
  | .sequence => "a sequence"
  | .unit => "unit"
  | .record name => "struct " ++ name
  | .enumeration => "string or map"
  | .pair => "an array of length 2"
  | .taggedUnion name => "internally tagged enum " ++ name
  | .variantIdentifier => "variant identifier"
  | .singleKey => "map with a single key"
  | .recordElements name count => "struct " ++ name ++ " with " ++ countElements count
  | .variantElements union variant count =>
    "struct variant " ++ union ++ "::" ++ variant ++ " with " ++ countElements count
  | .fewerElements => "fewer elements in array"
  | .elements count => countElements count ++ " in sequence"

/-- Why a JSON value is not a payload of the expected type. -/
inductive DecodeError where
  | missingField (name : String)
  | invalidType (found : Json) (expected : Expectation)
  | invalidValue (found : Json) (expected : Expectation)
  | invalidLength (length : Nat) (expected : Expectation)
  | unknownVariant (name : String) (variants : List String)
  | noVariant (union : String)
  | invalidText (reason : String)
deriving DecidableEq, Repr

/-- A text between backticks. -/
def ticked (text : String) : String := "`" ++ text ++ "`"

/-- A value as a decoder names it. Compound values are named by their kind only. -/
def describe : Json → String
  | .null => "null"
  | .bool value => "boolean " ++ ticked (if value then "true" else "false")
  | .number (.integer value) => "integer " ++ ticked (String.ofList (Number.writeInteger value))
  | .number (.float value) => "floating point " ++ ticked (String.ofList (Number.writeFloat value))
  | .string value => "string " ++ Text.quoted value
  | .array _ => "sequence"
  | .object _ => "map"

/-- The names of variants that would have been accepted. -/
def describeVariants : List String → String
  | [] => "there are no variants"
  | [only] => "expected " ++ ticked only
  | [first, second] => "expected " ++ ticked first ++ " or " ++ ticked second
  | variants => "expected one of " ++ ", ".intercalate (variants.map ticked)

/-- Wording of a decode error. -/
def DecodeError.message : DecodeError → String
  | .missingField name => "missing field " ++ ticked name
  | .invalidType found expected =>
    "invalid type: " ++ describe found ++ ", expected " ++ expected.text
  | .invalidValue found expected =>
    "invalid value: " ++ describe found ++ ", expected " ++ expected.text
  | .invalidLength length expected =>
    "invalid length " ++ toString length ++ ", expected " ++ expected.text
  | .unknownVariant name variants =>
    "unknown variant " ++ ticked name ++ ", " ++ describeVariants variants
  | .noVariant union => "data did not match any variant of untagged enum " ++ union
  | .invalidText reason => reason

end LanguageClient.Json
