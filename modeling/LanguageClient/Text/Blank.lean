/-!
# White space

The characters with the Unicode property White_Space, and trimming by it. Header lines are
trimmed by this property, so a no-break space around a header name vanishes as an ASCII space
does. Comparison without regard to case is ASCII only: no other letter is folded.
-/

namespace LanguageClient.Text

/-- The characters with the property White_Space. -/
def isBlank (character : Char) : Bool :=
  let code := character.toNat
  (9 ≤ code && code ≤ 13) || code == 0x20 || code == 0x85 || code == 0xA0 || code == 0x1680 ||
    (0x2000 ≤ code && code ≤ 0x200A) || code == 0x2028 || code == 0x2029 || code == 0x202F ||
    code == 0x205F || code == 0x3000

/-- Drop blanks from the end. -/
def trimEnd (text : List Char) : List Char := (text.reverse.dropWhile isBlank).reverse

/-- Drop blanks from both ends. -/
def trim (text : List Char) : List Char := trimEnd (text.dropWhile isBlank)

/-- Equality up to the case of ASCII letters. -/
def sameLetters (left right : List Char) : Bool := left.map Char.toLower == right.map Char.toLower

end LanguageClient.Text
