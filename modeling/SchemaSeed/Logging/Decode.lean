import SchemaSeed.Json.Decode
import SchemaSeed.Settings

/-!
# Logging settings from JSON
-/

namespace SchemaSeed

open Json (Mismatch Value)

namespace LogFormat

def named (name : String) : Except Mismatch LogFormat :=
  match Assoc.find? table name with
  | some f => .ok f
  | none => .error (.unknownVariant name (all.map LogFormat.name))

/-- A format: its name, or an object with the name as its only key and nothing as value. -/
def ofJson : Value → Except Mismatch LogFormat
  | .string name => named name
  | .object [(name, v)] => do
    let f ← named name
    match v with
    | .null => return f
    | v => v.unexpected "unit"
  | .object _ => .error (.wrongValue .map "map with a single key")
  | v => v.unexpected "string or map"

end LogFormat

namespace LoggingSettings

def fileOfJson : Value → Except Mismatch (Option String)
  | .null => .ok none
  | .string path => .ok (some path)
  | v => v.unexpected "path string"

/-- Logging settings; those left out have their defaults. -/
def ofJson : Value → Except Mismatch LoggingSettings :=
  Json.Decode.record "struct LoggingSettings"
    [⟨"format", false, fun s v => do return { s with format := ← LogFormat.ofJson v }⟩,
     ⟨"level", false, fun s v => do return { s with level := ← Json.Decode.string v }⟩,
     ⟨"file", false, fun s v => do return { s with file := ← fileOfJson v }⟩]
    Settings.defaults.logging

end LoggingSettings

end SchemaSeed
