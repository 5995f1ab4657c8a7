/-!
# Ranges of code points

A property of characters is given by the ranges of code points that have it, first
and last of each range included, in increasing order.
-/

namespace ServiceTemplates.Text

def inRanges (ranges : List (Nat × Nat)) (c : Char) : Bool :=
  ranges.any fun r => r.1 ≤ c.toNat && c.toNat ≤ r.2

end ServiceTemplates.Text
