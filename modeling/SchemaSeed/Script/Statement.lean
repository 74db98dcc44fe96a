import SchemaSeed.Script.Comment
import SchemaSeed.Text.Blank
import SchemaSeed.Text.Split

/-!
# The statements of a script

A script is cut at its semicolons. Blanks around a statement are dropped, and so are
statements that hold nothing else.
-/

namespace SchemaSeed.Script

/-- The statements of a text: what stands between semicolons, without the blanks around it and
unless it is blank. -/
def statements (cs : List Char) : List (List Char) :=
  ((Text.split ';' cs).map Text.trim).filter fun statement => !statement.isEmpty

def splitStatements (script : String) : List String :=
  (statements script.toList).map String.ofList

end SchemaSeed.Script
