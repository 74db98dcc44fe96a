import SchemaSeed.Json.Writer

/-!
# SQL literals

Values of mock data as literals of SQL. A text stands between single quotes, with each
quote in it doubled; lists and objects are stored as the text of their JSON.
-/

namespace SchemaSeed.Sql

def escape (cs : List Char) : List Char :=
  cs.flatMap fun c => if c = '\'' then ['\'', '\''] else [c]

def quote (cs : List Char) : List Char := '\'' :: escape cs ++ ['\'']

/-- A value as a literal. Numbers and words stand bare, and everything else between quotes. -/
def literal : Json.Value → List Char
  | .null => "NULL".toList
  | .bool b => if b then "true".toList else "false".toList
  | .number n => n.text
  | .string s => quote s.toList
  | .array items => quote (Json.compact (.array items))
  | .object members => quote (Json.compact (.object members))

def escapeString (text : String) : String := String.ofList (escape text.toList)

def literalText (v : Json.Value) : String := String.ofList (literal v)

end SchemaSeed.Sql
