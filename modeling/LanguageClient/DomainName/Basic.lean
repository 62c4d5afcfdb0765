import LanguageClient.DomainName.Composition
import LanguageClient.DomainName.Direction
import LanguageClient.DomainName.Joining
import LanguageClient.DomainName.Mapping
import LanguageClient.DomainName.Punycode

/-!
# Domain names

A domain name is a list of labels between full stops. It is read from a text in which letters may
have any case, width and style, and in which a label with other characters than ASCII may be
given in its ASCII form. A label of a name is in composed form and holds only characters that stand
for themselves; it does not start with a mark, its joiners stand where letters join, and its
characters keep to one writing direction.
-/

namespace LanguageClient

/-- A domain name, given by its labels. -/
structure DomainName where
  labels : List (List Char)
deriving DecidableEq, Repr

namespace DomainName

/-- Characters that no label holds. -/
def isForbidden (character : Char) : Bool :=
  character.toNat ≤ 0x20 || character.toNat == 0x7F || "#/:<>?@[\\]^|%".toList.contains character

/-- What a label in ASCII form starts with. -/
def asciiMark : List Char := "xn--".toList

/-- The label that a text stands for. -/
def label? (text : List Char) : Option (List Char) :=
  if asciiMark.isPrefixOf text then do
    let label ← Punycode.decode? (text.drop asciiMark.length)
    if label.all isKept && normalize label == label then some label else none
  else some text

/-- Greatest length of a label that has an ASCII form of its own. -/
def longestLabel : Nat := 1000

/-- Whether a label is well formed. -/
def labelStands (label : List Char) : Bool :=
  !label.any isForbidden && !label.head?.any isMark && joinersStand [] label &&
    (label.all (·.toNat ≤ 127) || label.length ≤ longestLabel)

/-- The domain name that a text stands for, if it does. -/
def ofText? (text : List Char) : Option DomainName := do
  let plain ← read? text
  let labels ← (Text.split '.' (normalize plain)).mapM label?
  if labels.all labelStands && directionsStand labels then some ⟨labels⟩ else none

/-- Whether a name consists of nothing, not even a full stop. -/
def isEmpty (name : DomainName) : Bool := name.labels.all List.isEmpty && name.labels.length ≤ 1

/-- The labels without the empty label of a full stop at the end. -/
def withoutRoot (name : DomainName) : List (List Char) :=
  match name.labels.reverse with
  | [] :: label :: before => (label :: before).reverse
  | _ => name.labels

end DomainName

end LanguageClient
