/-!
# Table dependencies

What a schema says about one table: its name, and the tables that its foreign keys refer
to, in the order of the script and with repetitions.
-/

namespace SchemaSeed

structure TableDependency where
  name : String
  dependencies : List String
  deriving DecidableEq, Repr, Inhabited

end SchemaSeed
