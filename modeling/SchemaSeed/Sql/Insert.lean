import SchemaSeed.MockData
import SchemaSeed.Sql.Literal

/-!
# INSERT statements

All rows of a table go into one statement. The first row decides the columns and their
order; a column that a later row lacks is `NULL`, and a column that the first row lacks is
left out. Names are written as they are.
-/

namespace SchemaSeed.Sql

def commaSeparated (items : List (List Char)) : List Char := [',', ' '].intercalate items

/-- The value of a column as a literal. A row without the column has `NULL` in it. -/
def cell (row : Row) (column : String) : List Char :=
  literal ((Assoc.find? row column).getD .null)

/-- One row in parentheses, after a tab. The columns decide the order of the values. -/
def tuple (columns : List String) (row : Row) : List Char :=
  '\t' :: '(' :: commaSeparated (columns.map (cell row)) ++ [')']

def insertHeader (table : String) (columns : List String) : List Char :=
  "INSERT INTO ".toList ++ table.toList ++ " (".toList ++
    commaSeparated (columns.map String.toList) ++ ")\nVALUES\n".toList

/-- The statement that inserts the rows into a table, if there are any. Its columns are those of the
first row. -/
def insertStatement (table : String) : List Row → Option String
  | [] => none
  | first :: rest =>
    let columns := Assoc.keys first
    some (String.ofList (insertHeader table columns ++
      [',', '\n'].intercalate ((first :: rest).map (tuple columns)) ++ [';']))

end SchemaSeed.Sql
