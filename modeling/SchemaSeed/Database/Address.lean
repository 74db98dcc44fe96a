import SchemaSeed.Text.Hex
import SchemaSeed.Text.Split

/-!
# Internet addresses

Whether a text is an address: four bytes in decimal with dots between them, or eight groups
of hexadecimal digits with colons between them, where two colons stand for groups of zeros
and the last two groups may be written as four bytes.
-/

namespace SchemaSeed.Database.Address

def isByte (cs : List Char) : Bool :=
  let n := cs.foldl (fun n c => n * 10 + (c.toNat - 48)) 0
  cs.all (·.isDigit) && n < 256 && String.ofList cs = toString n

def isDotted (cs : List Char) : Bool :=
  let bytes := Text.split '.' cs
  bytes.length = 4 && bytes.all isByte

def isGroup (cs : List Char) : Bool :=
  !cs.isEmpty && cs.length ≤ 4 && cs.all fun c => (Text.hexDigit? c).isSome

/-- How many groups the parts are; if `dotted` holds, the last one may be four bytes. -/
def groupCount (dotted : Bool) : List (List Char) → Option Nat
  | [] => some 0
  | [last] =>
    if isGroup last then some 1
    else if dotted && isDotted last then some 2
    else none
  | part :: rest => if isGroup part then (groupCount dotted rest).map (· + 1) else none

def groupsIn (dotted : Bool) (cs : List Char) : Option Nat :=
  if cs.isEmpty then some 0 else groupCount dotted (Text.split ':' cs)

/-- The text before the first two colons in a row, and the text after them. -/
def cutColons : List Char → Option (List Char × List Char)
  | ':' :: ':' :: rest => some ([], rest)
  | c :: rest => (cutColons rest).map fun (before, after) => (c :: before, after)
  | [] => none

/-- Eight groups, some of which two colons may stand for. -/
def isGrouped (cs : List Char) : Bool :=
  match cutColons cs with
  | none => groupsIn true cs = some 8
  | some (before, after) =>
    match groupsIn false before, groupsIn true after with
    | some m, some n => m + n < 8
    | _, _ => false

def isAddress (address : String) : Bool :=
  isDotted address.toList || isGrouped address.toList

end SchemaSeed.Database.Address
