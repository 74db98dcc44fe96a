/-!
# What can go wrong in a run

A fatal error ends the run; the others are collected, and the run goes on.
-/

namespace SchemaSeed

inductive SeedError where
  /-- The database could not be reached. -/
  | connection (message : String)
  /-- A statement of the schema was rejected; they are numbered from 1. -/
  | schemaStatement (index : Nat) (message : String)
  /-- The mock data is no document of tables and rows. -/
  | mockDataParse (message : String)
  /-- The foreign keys form a cycle. -/
  | cycle (tables : List String)
  /-- The rows of a table could not be written as a statement. -/
  | rowSerialization (table message : String)
  /-- The rows of a table were rejected. -/
  | insertExecution (table message : String)
  deriving DecidableEq, Repr

namespace SeedError

def cycleMessage (tables : List String) : String :=
  "circular dependency detected in schema: " ++ ", ".intercalate tables

def message : SeedError → String
  | .connection message => "database connection failed: " ++ message
  | .schemaStatement index message =>
    "schema statement " ++ toString index ++ " failed: " ++ message
  | .mockDataParse message => "failed to parse mock data: " ++ message
  | .cycle tables => "failed to determine table order: " ++ cycleMessage tables
  | .rowSerialization table message =>
    "failed to serialize rows for table " ++ table ++ ": " ++ message
  | .insertExecution table message =>
    "data test for table " ++ table ++ " failed: " ++ message

def isFatal : SeedError → Bool
  | .connection _ | .mockDataParse _ | .cycle _ => true
  | .schemaStatement _ _ | .rowSerialization _ _ | .insertExecution _ _ => false

end SeedError

end SchemaSeed
