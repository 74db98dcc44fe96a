import SchemaSeed.Decimal.Places

/-!
# Durations for people

A duration is shown in the largest unit from nanoseconds to seconds that it reaches: whole
nanoseconds, micro- and milliseconds with one decimal place, seconds with two. The decimals
are those of the nearest double.
-/

namespace SchemaSeed

structure Duration where
  seconds : Nat
  nanos : Nat
  deriving DecidableEq, Repr

namespace Duration

open Decimal (Binary64)

def ofNanos (n : Nat) : Duration := ⟨n / 1_000_000_000, n % 1_000_000_000⟩

def totalNanos (d : Duration) : Nat := 1_000_000_000 * d.seconds + d.nanos

def double (n : Nat) : Binary64 := (Binary64.ofNat n).getD (.zero false)

/-- A number of nanoseconds in a unit of `unit` nanoseconds, rounded to a double. -/
def inUnit (n unit : Nat) : Binary64 := ((double n).div (double unit)).getD (.zero false)

def inSeconds (d : Duration) : Binary64 :=
  ((double d.seconds).add (inUnit d.nanos (1_000_000_000))).getD (.zero false)

def text (d : Duration) : String :=
  let n := d.totalNanos
  if n < 1_000 then toString n ++ "ns"
  else if n < 1_000_000 then String.ofList ((inUnit n (1_000)).toPlaces 1) ++ "µs"
  else if n < 1_000_000_000 then String.ofList ((inUnit n (1_000_000)).toPlaces 1) ++ "ms"
  else String.ofList (d.inSeconds.toPlaces 2) ++ "s"

end Duration

end SchemaSeed
