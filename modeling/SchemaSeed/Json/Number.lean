import SchemaSeed.Json.Value

/-!
# The text of a number

Integers are written with all their digits. A double is written with the fewest digits
that read back: positional when its decimal exponent lies between -5 and 15, and then
with a point even when it is integral, otherwise with one digit before the point and an
exponent that always has a sign.
-/

namespace SchemaSeed.Json

open Decimal (Binary64 Digits)

/-- The digits of an integer, after a minus sign when it is negative. -/
def intText (i : Int) : List Char :=
  if i < 0 then '-' :: Nat.toDigits 10 i.natAbs else Nat.toDigits 10 i.natAbs

/-- Which doubles are written positionally, by the exponent of their first digit. -/
structure NumberFormat where
  leastPositional : Int
  greatestPositional : Int

def NumberFormat.json : NumberFormat := ⟨-5, 15⟩

/-- The digits of `d` around the point, or with an exponent. -/
def Digits.text (format : NumberFormat) (d : Digits) : List Char :=
  let ds := Nat.toDigits 10 d.digits
  let e : Int := d.scale + (ds.length : Int) - 1
  if format.leastPositional ≤ e ∧ e ≤ format.greatestPositional then
    if 0 ≤ d.scale then ds ++ List.replicate d.scale.toNat '0' ++ ['.', '0']
    else if 0 ≤ e then ds.take (e.toNat + 1) ++ '.' :: ds.drop (e.toNat + 1)
    else '0' :: '.' :: List.replicate ((-e).toNat - 1) '0' ++ ds
  else
    let fraction := if ds.length = 1 then [] else '.' :: ds.drop 1
    let sign := if e < 0 then '-' else '+'
    ds.take 1 ++ fraction ++ 'e' :: sign :: Nat.toDigits 10 e.natAbs

def realText (x : Binary64) : List Char :=
  let magnitude := if x.isZero then ['0', '.', '0'] else Digits.text .json (Digits.shortest x)
  if x.negative then '-' :: magnitude else magnitude

def Number.text : Number → List Char
  | .int i => intText i
  | .real x => realText x

end SchemaSeed.Json
