/-!
# Ranges of character codes

Tables of character properties list codes as inclusive ranges in ascending order.
-/

namespace LanguageClient.Text

/-- Whether a code lies in one of the ranges. -/
def inRanges (code : Nat) (ranges : List (Nat × Nat)) : Bool :=
  ranges.any fun (first, last) => first ≤ code && code ≤ last

end LanguageClient.Text
