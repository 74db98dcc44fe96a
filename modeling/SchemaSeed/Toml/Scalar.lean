import SchemaSeed.Toml.Scan

/-!
# Numbers and dates

Integers of 64 bits in four bases, floats, and dates and times. Only integers have a value
here; of the others it is known that they are well formed.
-/

namespace SchemaSeed.Toml

/-! ### Digits -/

/-- Digits that `digit?` knows, with single underscores between them. -/
def digitsFrom (digit? : Char → Option Nat) : List Char → List Nat × List Char
  | '_' :: c :: rest =>
    match digit? c with
    | some d => let (ds, rest) := digitsFrom digit? rest; (d :: ds, rest)
    | none => ([], '_' :: c :: rest)
  | c :: rest =>
    match digit? c with
    | some d => let (ds, rest) := digitsFrom digit? rest; (d :: ds, rest)
    | none => ([], c :: rest)
  | [] => ([], [])

/-- Some digits, the first of them without an underscore before it. -/
def digits (digit? : Char → Option Nat) : Scan (List Nat)
  | c :: rest => do
    let d ← digit? c
    let (ds, rest) := digitsFrom digit? rest
    return (d :: ds, rest)
  | [] => none

def digitBelow (base : Nat) (c : Char) : Option Nat := (Text.hexDigit? c).filter (· < base)

def ofDigits (base : Nat) (ds : List Nat) : Nat := ds.foldl (fun n d => n * base + d) 0

/-- A sign, if there is one, and whether it is a minus. -/
def sign : List Char → Bool × List Char
  | '+' :: rest => (false, rest)
  | '-' :: rest => (true, rest)
  | cs => (false, cs)

/-- The digits of a decimal number: a zero stands alone. -/
def decimalDigits : Scan (List Nat)
  | '0' :: rest => some ([0], rest)
  | cs => digits (digitBelow 10) cs

/-! ### Integers -/

def fits (n : Int) : Bool := -9_223_372_036_854_775_808 ≤ n && n < 9_223_372_036_854_775_808

def fitting (n : Int) (rest : List Char) : Option (Int × List Char) :=
  if fits n then some (n, rest) else none

def inBase (base : Nat) (cs : List Char) : Option (Int × List Char) := do
  let (ds, rest) ← digits (digitBelow base) cs
  fitting (ofDigits base ds) rest

def integer : Scan Int
  | '0' :: 'x' :: rest => inBase 16 rest
  | '0' :: 'o' :: rest => inBase 8 rest
  | '0' :: 'b' :: rest => inBase 2 rest
  | cs => do
    let (negative, rest) := sign cs
    let (ds, rest) ← decimalDigits rest
    let n : Int := ofDigits 10 ds
    fitting (if negative then -n else n) rest

/-! ### Floats -/

/-- The digits after a decimal point, if there is one. -/
def fraction : Scan (List Nat)
  | '.' :: rest => digits (digitBelow 10) rest
  | _ => none

def exponent : Scan Int
  | c :: rest =>
    if c = 'e' ∨ c = 'E' then do
      let (negative, rest) := sign rest
      let (ds, rest) ← digits (digitBelow 10) rest
      let n : Int := ofDigits 10 ds
      return (if negative then -n else n, rest)
    else none
  | [] => none

/-- Whether `digits * 10 ^ exponent` is too large for a double: it is rounded to infinity
from half a step beyond the largest one on. -/
def overflows (ds : List Nat) (exponent : Int) : Bool :=
  let significant := ds.dropWhile (· == 0)
  let magnitude : Int := significant.length + exponent
  let bound : Nat := Nat.pow 2 1024 - Nat.pow 2 970
  let n := ofDigits 10 significant
  if significant.isEmpty || magnitude < 300 then false
  else if 400 < magnitude then true
  else if exponent < 0 then bound * Nat.pow 10 exponent.natAbs ≤ n
  else bound ≤ n * Nat.pow 10 exponent.natAbs

/-- A float with digits: a fraction, an exponent, or both. A positive one must not be too
large. -/
def digitalFloat (cs : List Char) : Option (Unit × List Char) := do
  let (negative, rest) := sign cs
  let (whole, rest) ← decimalDigits rest
  let (frac, e, rest) ←
    match fraction rest with
    | some (frac, rest) =>
      match exponent rest with
      | some (e, rest) => some (frac, e, rest)
      | none => some (frac, 0, rest)
    | none => (exponent rest).map fun (e, rest) => ([], e, rest)
  if !negative && overflows (whole ++ frac) (e - frac.length) then none else some ((), rest)

def specialFloat (cs : List Char) : Option (Unit × List Char) :=
  match (sign cs).2 with
  | 'i' :: 'n' :: 'f' :: rest => some ((), rest)
  | 'n' :: 'a' :: 'n' :: rest => some ((), rest)
  | _ => none

def float (cs : List Char) : Option (Unit × List Char) :=
  (digitalFloat cs).or (specialFloat cs)

/-! ### Dates and times -/

/-- A number of exactly `count` digits, between two bounds. -/
def field (count low high : Nat) (cs : List Char) : Option (Nat × List Char) := do
  let ds ← (cs.take count).mapM (digitBelow 10)
  let n := ofDigits 10 ds
  if ds.length = count ∧ low ≤ n ∧ n ≤ high then some (n, cs.drop count) else none

def expect (c : Char) : List Char → Option (List Char)
  | d :: rest => if d = c then some rest else none
  | [] => none

def isLeapYear (year : Nat) : Bool := year % 4 == 0 && (year % 100 != 0 || year % 400 == 0)

def daysIn (year month : Nat) : Nat :=
  if month = 2 then if isLeapYear year then 29 else 28
  else if month = 4 ∨ month = 6 ∨ month = 9 ∨ month = 11 then 30
  else 31

def date (cs : List Char) : Option (List Char) := do
  let (year, rest) ← field 4 0 9999 cs
  let (month, rest) ← field 2 1 12 (← expect '-' rest)
  let (_, rest) ← field 2 1 (daysIn year month) (← expect '-' rest)
  return rest

/-- A time of day, perhaps with a fraction of a second. -/
def timeOfDay (cs : List Char) : Option (List Char) := do
  let (_, rest) ← field 2 0 23 cs
  let (_, rest) ← field 2 0 59 (← expect ':' rest)
  let (_, rest) ← field 2 0 60 (← expect ':' rest)
  match rest with
  | '.' :: c :: tail => if c.isDigit then return tail.dropWhile (·.isDigit) else return rest
  | _ => return rest

def zone : List Char → Option (List Char)
  | c :: rest =>
    if c = 'Z' ∨ c = 'z' then some rest
    else if c = '+' ∨ c = '-' then do
      let (_, rest) ← field 2 0 23 rest
      let (_, rest) ← field 2 0 59 (← expect ':' rest)
      return rest
    else none
  | [] => none

def timeAfterDate : List Char → Option (List Char)
  | c :: rest =>
    if c = 'T' ∨ c = 't' ∨ c = ' ' then do
      let rest ← timeOfDay rest
      return (zone rest).getD rest
    else none
  | [] => none

def datetime (cs : List Char) : Option (Unit × List Char) :=
  match date cs with
  | some rest => some ((), (timeAfterDate rest).getD rest)
  | none => (timeOfDay cs).map fun rest => ((), rest)

end SchemaSeed.Toml
