/-
  Sets of characters, as closed ranges of code points.
-/
import SearchQuery.Text.Basic

namespace SearchQuery.Text

/-- Whether a code point lies in one of the ranges. -/
def inRanges (ranges : List (Nat × Nat)) (code : Nat) : Bool :=
  ranges.any fun (first, last) => first ≤ code && code ≤ last

end SearchQuery.Text
