/-!
Sets of characters as ranges of code points.
-/

namespace ServletFilters.Text

/-- Membership in the union of ranges, each given by its first and last code point. The ranges are
disjoint and in ascending order, so only the first that does not end before the character counts. -/
def inRanges (ranges : Array (Nat × Nat)) (c : Char) : Bool :=
  match ranges.find? (fun r => c.toNat ≤ r.2) with
  | some r => r.1 ≤ c.toNat
  | none => false

end ServletFilters.Text
