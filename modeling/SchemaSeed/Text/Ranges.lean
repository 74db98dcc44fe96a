/-!
# Sets of characters given by ranges

A property of characters is a list of code point ranges, both ends included.
-/

namespace SchemaSeed.Text

abbrev Ranges := List (Nat × Nat)

def Ranges.contains (ranges : Ranges) (c : Char) : Bool :=
  ranges.any fun (low, high) => low ≤ c.toNat && c.toNat ≤ high

end SchemaSeed.Text
