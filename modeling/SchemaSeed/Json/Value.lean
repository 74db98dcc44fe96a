import SchemaSeed.Decimal.Shortest

/-!
# JSON values

A JSON document as data. Objects are lists of members, so their order is kept, and an
integer of 64 bits stays an integer.
-/

namespace SchemaSeed.Json

open Decimal (Binary64)

/-- A number is an integer that fits 64 bits, signed or unsigned, or a double. -/
inductive Number where
  | int (value : Int)
  | real (value : Binary64)
  deriving DecidableEq, Repr, Inhabited

inductive Value where
  | null
  | bool (value : Bool)
  | number (value : Number)
  | string (value : String)
  | array (items : List Value)
  | object (members : List (String × Value))
  deriving Inhabited, Repr

/-- The members of an object; none for any other value. -/
def Value.members : Value → List (String × Value)
  | .object members => members
  | _ => []

end SchemaSeed.Json
