import SchemaSeed.Decimal.Binary64

/-!
# The fewest digits that read back

A double stands for every real number that rounds to it. `Digits.shortest` walks the
decimal grids from coarse to fine, one digit to seventeen, and takes the first grid
that has a point in that interval; of the two neighbours of the exact value it takes
the nearer one, and of two equally near ones the even one.
-/

namespace SchemaSeed.Decimal

/-- A positive decimal `digits · 10 ^ scale`. -/
structure Digits where
  digits : Nat
  scale : Int
  deriving DecidableEq, Repr, Inhabited

def ltPow10 (num den : Nat) (e : Int) : Bool :=
  num * Nat.pow 10 (-e).toNat < den * Nat.pow 10 e.toNat

/-- Moves a guess at the decimal exponent up to the exact one. -/
def raiseExponent (num den : Nat) : Nat → Int → Int
  | 0, e => e
  | fuel + 1, e => if ltPow10 num den (e + 1) then e else raiseExponent num den fuel (e + 1)

/-- The exponent `e` with `10 ^ e ≤ num / den < 10 ^ (e + 1)`, for a positive quotient. A
bit is worth a little more than 0.301 of a digit, so the guess is at most two too low. -/
def decimalExponent (num den : Nat) : Int :=
  let bits : Int := (num.log2 : Int) - (den.log2 : Int) - 1
  raiseExponent num den 4 (Int.fdiv (bits * 30103) 100000 - 1)

/-- The reals that round to a double, as quotients over one denominator; the ends belong
to the interval when the mantissa is even. -/
structure Interval where
  low : Nat
  value : Nat
  high : Nat
  den : Nat
  closed : Bool

/-- Below a power of two the neighbour is half as far away as above it. -/
def Interval.ofBinary64 (x : Binary64) : Interval :=
  let below := if x.mantissa = Binary64.leastMantissa ∧ -1074 < x.exponent then 1 else 2
  let up := Nat.pow 2 x.exponent.toNat
  ⟨(4 * x.mantissa - below) * up, 4 * x.mantissa * up, (4 * x.mantissa + 2) * up,
    4 * Nat.pow 2 (-x.exponent).toNat, x.mantissa % 2 = 0⟩

namespace Digits

def num (d : Digits) : Nat := d.digits * Nat.pow 10 d.scale.toNat

def den (d : Digits) : Nat := Nat.pow 10 (-d.scale).toNat

/-- A decimal inside the interval reads back as the double. -/
def readsBack (i : Interval) (d : Digits) : Bool :=
  let x := d.num * i.den
  if i.closed then i.low * d.den ≤ x && x ≤ i.high * d.den
  else i.low * d.den < x && x < i.high * d.den

/-- The distance to the exact value, over the denominator `i.den * d.den`. -/
def distance (i : Interval) (d : Digits) : Nat :=
  let x := d.num * i.den
  let v := i.value * d.den
  if x ≤ v then v - x else x - v

/-- The nearer of the two neighbours of the exact value on one grid; of two equally near
ones, the one whose last digit is even. -/
def onGrid (i : Interval) (scale : Int) : Option Digits :=
  let c := i.value * Nat.pow 10 (-scale).toNat / (i.den * Nat.pow 10 scale.toNat)
  let below : Digits := ⟨c, scale⟩
  let above : Digits := ⟨c + 1, scale⟩
  match readsBack i below, readsBack i above with
  | true, true =>
    match compare (distance i below) (distance i above) with
    | .lt => some below
    | .gt => some above
    | .eq => if c % 2 = 0 then some below else some above
  | true, false => some below
  | false, true => some above
  | false, false => none

/-- The first grid with a hit, from coarse to fine. Seventeen digits always suffice. -/
def firstGrid (i : Interval) : Nat → Int → Digits
  | 0, scale =>
    ⟨roundDiv (i.value * Nat.pow 10 (-scale).toNat) (i.den * Nat.pow 10 scale.toNat), scale⟩
  | fuel + 1, scale => (onGrid i scale).getD (firstGrid i fuel (scale - 1))

def trimZeros : Nat → Digits → Digits
  | 0, d => d
  | fuel + 1, d =>
    if d.digits % 10 = 0 ∧ d.digits ≠ 0 then trimZeros fuel ⟨d.digits / 10, d.scale + 1⟩ else d

/-- The shortest decimal that reads back as a given double other than zero. -/
def shortest (x : Binary64) : Digits :=
  let i := Interval.ofBinary64 x
  trimZeros 20 (firstGrid i 17 (decimalExponent i.value i.den))

end Digits

end SchemaSeed.Decimal
