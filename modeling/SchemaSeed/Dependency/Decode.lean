import SchemaSeed.Dependency.Basic
import SchemaSeed.Json.Decode

/-!
# Dependencies from JSON

A table dependency is a record with a name and a list of names.
-/

namespace SchemaSeed.TableDependency

open Json.Decode (FieldReader)

/-- A record with the fields `name` and `dependencies`. -/
def ofJson : Json.Value → Except Json.Mismatch TableDependency :=
  Json.Decode.record "struct TableDependency"
    [⟨"name", true, fun d v => do return { d with name := ← Json.Decode.string v }⟩,
     ⟨"dependencies", true, fun d v => do
        return { d with dependencies := ← Json.Decode.list Json.Decode.string v }⟩]
    ⟨"", []⟩

def listOfJson : Json.Value → Except Json.Mismatch (List TableDependency) :=
  Json.Decode.list ofJson

end SchemaSeed.TableDependency
