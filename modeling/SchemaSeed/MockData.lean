import SchemaSeed.Json.Reader

/-!
# Mock data

A mock data document gives each table its rows. It is a JSON object of arrays of objects;
tables and columns keep the order in which they first come.
-/

namespace SchemaSeed

abbrev Row := List (String × Json.Value)

abbrev MockData := List (String × List Row)

namespace MockData

/-- A row whose document is `depth` containers deep at most. A column that comes twice has its last
value. -/
def row (depth : Nat) : Json.Reader Row := Json.object depth (Json.value (depth - 1))

def rows (depth : Nat) : Json.Reader (List Row) := Json.list depth (row (depth - 1))

/-- A whole document: an object of lists of objects. A table that comes twice has the rows that come
last. -/
def reader : Json.Reader MockData :=
  Json.object Json.depthLimit (rows (Json.depthLimit - 1))

def parse (source : String) : Except String MockData := Json.parse reader source

end MockData

end SchemaSeed
