import SchemaSeed.Decimal.Binary64

/-!
# A fixed number of decimal places

`Binary64.toPlaces k x` writes a non-negative double with exactly `k` digits after the
point. The exact binary value is rounded, and an exact tie goes to the even digit.
-/

namespace SchemaSeed.Decimal

/-- Decimal digits of `n`, padded on the left with zeros to at least `width` of them. -/
def padded (width n : Nat) : List Char :=
  let ds := Nat.toDigits 10 n
  List.replicate (width - ds.length) '0' ++ ds

/-- The magnitude of a double with `places` digits after the point. -/
def Binary64.toPlaces (places : Nat) (x : Binary64) : List Char :=
  let scaled := roundDiv (x.num * Nat.pow 10 places) x.den
  let ds := padded (places + 1) scaled
  let cut := ds.length - places
  ds.take cut ++ '.' :: ds.drop cut

end SchemaSeed.Decimal
