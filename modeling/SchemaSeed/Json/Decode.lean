import SchemaSeed.Json.Mismatch

/-!
# Records from values

Records that are taken from a value already read, so that a mismatch has no place. An
object gives the fields in any order, an array in their order; the caller says which
fields may be left out.
-/

namespace SchemaSeed.Json

def Value.unexpected (v : Value) (expected : String) : Except Mismatch α :=
  .error (.wrongType (.ofValue v) expected)

namespace Decode

def string : Value → Except Mismatch String
  | .string s => .ok s
  | v => v.unexpected "a string"

def list (item : Value → Except Mismatch α) : Value → Except Mismatch (List α)
  | .array items => items.mapM item
  | v => v.unexpected "a sequence"

/-- A field of a record that is kept in a draft `σ` while it is read. -/
structure FieldReader (σ : Type u) where
  name : String
  required : Bool
  read : σ → Value → Except Mismatch σ

def fromMembers (fields : List (FieldReader σ)) (state : σ) (members : List (String × Value)) :
    Except Mismatch σ := do
  let state ← members.foldlM (fun state (key, v) =>
    match fields.find? fun f => f.name == key with
    | some f => f.read state v
    | none => .ok state) state
  match fields.find? fun f => f.required && !members.any fun m => m.1 == f.name with
  | some f => .error (.missingField f.name)
  | none => .ok state

/-- The items of an array, one for each field; `count` of them were read. -/
def fromItems (expected : String) (count : Nat) (state : σ) :
    List (FieldReader σ) → List Value → Except Mismatch σ
  | [], [] => .ok state
  | [], rest => .error (.wrongLength (count + rest.length) "fewer elements in array")
  | f :: fields, [] =>
    if f.required then .error (.wrongLength count expected)
    else fromItems expected count state fields []
  | f :: fields, v :: rest => do
    fromItems expected (count + 1) (← f.read state v) fields rest

/-- A record named `name`, starting from the draft `blank`. -/
def record (name : String) (fields : List (FieldReader σ)) (blank : σ) : Value → Except Mismatch σ
  | .object members => fromMembers fields blank members
  | .array items =>
    fromItems (name ++ " with " ++ toString fields.length ++ " elements") 0 blank fields items
  | v => v.unexpected name

end Decode

end SchemaSeed.Json
