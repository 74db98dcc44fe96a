/-!
# Double precision numbers, exactly

A finite double is a sign and a magnitude `mantissa · 2 ^ exponent`. Every operation
here is the exact quotient of two natural numbers, rounded once: `ofRatio` takes the
nearest double, a tie going to the even mantissa, and gives nothing when the result
would be infinite.
-/

namespace SchemaSeed.Decimal

/-- The quotient `num / den` to the nearest integer, a tie going to the even neighbour. -/
def roundDiv (num den : Nat) : Nat :=
  let q := num / den
  let twice := 2 * (num % den)
  if twice < den then q
  else if den < twice then q + 1
  else if q % 2 = 0 then q else q + 1

/-- A finite double: plus or minus `mantissa · 2 ^ exponent`. The mantissa has 53 bits,
or fewer when the exponent is `-1074`, the least one. -/
structure Binary64 where
  negative : Bool
  mantissa : Nat
  exponent : Int
  deriving DecidableEq, Repr, Inhabited

namespace Binary64

/-- The least mantissa with 53 bits, which is the 52nd power of two. -/
def leastMantissa : Nat := 4_503_599_627_370_496

def zero (negative : Bool) : Binary64 := ⟨negative, 0, -1074⟩

def isZero (x : Binary64) : Bool := x.mantissa = 0

def neg (x : Binary64) : Binary64 := { x with negative := !x.negative }

def num (x : Binary64) : Nat := x.mantissa * Nat.pow 2 x.exponent.toNat

def den (x : Binary64) : Nat := Nat.pow 2 (-x.exponent).toNat

def shifted (num den : Nat) (e : Int) : Nat × Nat :=
  (num * Nat.pow 2 (-e).toNat, den * Nat.pow 2 e.toNat)

/-- The exponent of the last place of a quotient: the one that leaves 53 bits before the
point, but not less than `-1074`. -/
def lastPlace (num den : Nat) : Int :=
  let guess : Int := (num.log2 : Int) - (den.log2 : Int) - 53
  let (n, d) := shifted num den guess
  let e := if n / d < 2 * leastMantissa then guess else guess + 1
  max e (-1074)

/-- The non-negative double nearest to `num / den`, or nothing when it is too large. -/
def ofRatio (num den : Nat) : Option Binary64 :=
  if num = 0 then some (zero false)
  else
    let e := lastPlace num den
    let (n, d) := shifted num den e
    let m := roundDiv n d
    let (m, e) := if m = 2 * leastMantissa then (leastMantissa, e + 1) else (m, e)
    if e ≤ 971 then some ⟨false, m, e⟩ else none

def ofNat (n : Nat) : Option Binary64 := ofRatio n 1

def mul (x y : Binary64) : Option Binary64 := ofRatio (x.num * y.num) (x.den * y.den)

def div (x y : Binary64) : Option Binary64 := ofRatio (x.num * y.den) (x.den * y.num)

def add (x y : Binary64) : Option Binary64 :=
  ofRatio (x.num * y.den + y.num * x.den) (x.den * y.den)

end Binary64

end SchemaSeed.Decimal
