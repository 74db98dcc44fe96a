import SchemaSeed.Dependency.Order
import SchemaSeed.Run.Ledger
import SchemaSeed.Script.Declaration
import SchemaSeed.Script.Statement
import SchemaSeed.Sql.Insert

/-!
# A run

A run applies a schema to a database, puts the tables of the schema in order, and inserts
the mock rows table by table in that order. A rejected statement or insert is recorded and
the run goes on; a dead database, mock data that is no document, and a cycle of foreign keys
abort it. Errors never leave the run: they end up in its outcome.
-/

namespace SchemaSeed.Run

/-- Issues the statements of a schema, numbered from `index`. One that is rejected does not keep the
others from being issued. The result says whether all of them were accepted. -/
def applyStatements (index : Nat) (l : Ledger) : List String → Dialogue (Bool × Ledger)
  | [] => return (true, l)
  | statement :: rest => do
    match ← .ask statement with
    | .ok _ => applyStatements (index + 1) l.countStatement rest
    | .error message =>
      .say (.schemaStatementFailed index)
      let l ← l.record (.schemaStatement index message)
      let (_, l) ← applyStatements (index + 1) l rest
      return (false, l)

/-- The statements of a schema: those of the script without its comments. -/
def schemaStatements (schema : String) : List String :=
  Script.splitStatements (Script.stripComments schema)

/-- Applies a schema and notes whether it is valid, that is, whether all of its statements were
accepted. -/
def applySchema (schema : String) (l : Ledger) : Dialogue Ledger := do
  let (valid, l) ← applyStatements 1 l (schemaStatements schema)
  return { l with report := { l.report with schemaValid := valid } }

/-- Inserts the rows of a table with one statement. A table without rows is logged and passed over.
-/
def seedTable (table : String) (rows : List Row) (l : Ledger) : Dialogue Ledger :=
  match Sql.insertStatement table rows with
  | none => do
    .say (.tableSkipped table)
    return l
  | some statement => do
    match ← .ask statement with
    | .ok affected =>
      .say (.tableSeeded table affected)
      return l.countTable affected
    | .error message => l.record (.insertExecution table message)

/-- Inserts the rows of the tables in their order; tables without an entry in the mock data
are passed over. -/
def seedTables (data : MockData) (l : Ledger) : List String → Dialogue Ledger
  | [] => return l
  | table :: rest => do
    match Assoc.find? data table with
    | some rows => seedTables data (← seedTable table rows l) rest
    | none => seedTables data l rest

/-- The tables of the mock data that are not in the order, as the document has them. Names are
compared as they are written, and those in the order are in lowercase. -/
def undeclaredTables (data : MockData) (order : List String) : List String :=
  (Assoc.keys data).filter fun table => !order.contains table

/-- Logs each of the tables that are not in the order. -/
def logUndeclared : List String → Dialogue Unit
  | [] => return
  | table :: rest => do
    .say (.mockTableSkipped table)
    logUndeclared rest

/-- Seeds the tables in their order. Tables of the mock data that have no place in it are logged
before the first insert. -/
def seed (data : MockData) (order : List String) (l : Ledger) : Dialogue Outcome := do
  .say (.tableOrderResolved order)
  logUndeclared (undeclaredTables data order)
  (← seedTables data l order).finish

/-- The run once the database is known to be alive. The schema is applied before the mock data is
read, so that a document with a mistake does not keep it from being applied. -/
def checkSchemaAndData (schema mockData : String) (l : Ledger) : Dialogue Outcome := do
  let l ← applySchema schema l
  match MockData.parse mockData with
  | .error message => l.abort (.mockDataParse message)
  | .ok data =>
    match orderTables (Script.extractDependencies schema) with
    | .error tables => l.abort (.cycle tables)
    | .ok order => seed data order l

/-- A whole run on a database of the engine `engine`. Nothing is issued unless the database is
alive. -/
def run (engine schema mockData : String) : Dialogue Outcome := do
  let l ← Ledger.start
  .say (.runStarted engine)
  match ← .checkAlive with
  | .error message => l.abort (.connection ("ping failed: " ++ message))
  | .ok () => checkSchemaAndData schema mockData l

/-- A run that found no connection to its database. It is aborted at once, and its start is not
logged. -/
def unconnected (message : String) : Dialogue Outcome := do
  (← Ledger.start).abort (.connection message)

end SchemaSeed.Run
