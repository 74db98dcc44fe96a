import SchemaSeed.Content
import SchemaSeed.Json.Raw

/-!
# Requests for a test

The body of a request is a record of a schema and mock data: an object in any order, or a
list of the two. The schema is a string; the mock data is kept as it is written, so that
only its syntax is checked here. Unknown members are passed over. Bytes that are not UTF-8
do no harm in them, but keys, schema and mock data must be text.
-/

namespace SchemaSeed.Service

structure TestRequest where
  schema : String
  mockData : String
  deriving DecidableEq, Repr

namespace TestRequest

open Json (RawContainer)

/-- The characters of a body. The bytes of a body that is not text are taken for characters
one by one, which its syntax does not notice. -/
def characters : Content → List Char
  | .text s => s.toList
  | .binary bytes => bytes.map fun b => Char.ofNat b.toNat

def decode (body : Content) (piece : List Char) : Option String :=
  match body with
  | .text _ => some (String.ofList piece)
  | .binary _ => Content.decode? (piece.map fun c => c.toNat.toUInt8)

def spelled (body : Content) (piece : List Char) : Option String := do
  (Json.parse Json.string (← decode body piece)).toOption

def ofFields (body : Content) (schema mockData : List Char) : Option TestRequest := do
  return ⟨← spelled body schema, ← decode body mockData⟩

def ofContainer (body : Content) : RawContainer → Option TestRequest
  | .list [schema, mockData] => ofFields body schema mockData
  | .list _ => none
  | .object members => do
    let members ← members.mapM fun (key, value) => return (← spelled body key, value)
    match members.filter (·.1 == "schema"), members.filter (·.1 == "mock_data") with
    | [(_, schema)], [(_, mockData)] => ofFields body schema mockData
    | _, _ => none

def ofBody (body : Content) : Option TestRequest := do
  ofContainer body (← (Json.document Json.rawContainer (characters body)).toOption)

end TestRequest

end SchemaSeed.Service
