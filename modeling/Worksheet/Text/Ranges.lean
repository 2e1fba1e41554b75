/-
  Sets of characters given by ranges of their code points, which is how the tables of
  Unicode properties are kept.
-/
namespace Worksheet.Text

/-- Whether a code point lies in one of the ranges, ends included. -/
def inRanges (ranges : List (Nat × Nat)) (n : Nat) : Bool :=
  ranges.any fun r => r.1 ≤ n && n ≤ r.2

end Worksheet.Text
