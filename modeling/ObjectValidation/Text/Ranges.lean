/-!
Sets of characters kept as closed ranges of code points, the form in which character properties are
tabulated.
-/

namespace ObjectValidation.Text

/-- Whether a character lies in one of the ranges. -/
def inRanges (ranges : List (Nat × Nat)) (c : Char) : Bool :=
  ranges.any fun r => decide (r.1 ≤ c.toNat) && decide (c.toNat ≤ r.2)

end ObjectValidation.Text
