import SchemaSeed.Json.Record
import SchemaSeed.Json.Writer
import SchemaSeed.Metrics
import SchemaSeed.SeedError

/-!
# The report of a run

Whether the schema and the data are valid, what went wrong, and some figures. A report is
written as a JSON record and read back from one. How a run ends is an `Outcome`: it was
completed, perhaps with errors, or aborted by one.
-/

namespace SchemaSeed

open Json (Value RecordReader)

structure Report where
  schemaValid : Bool
  dataValid : Bool
  errors : List String
  metrics : Metrics
  deriving Inhabited

namespace Report

def blank : Report := ⟨false, false, [], .empty⟩

/-- Appends an error, in the words in which it is logged. -/
def record (r : Report) (error : SeedError) : Report :=
  { r with errors := r.errors ++ [error.message] }

def setMetric (r : Report) (name value : String) : Report :=
  { r with metrics := r.metrics.set name value }

/-! ### The metrics of a run -/

def executionTimeMetric : String := "execution_time"

def tablesSeededMetric : String := "tables_seeded"

def rowsInsertedMetric : String := "rows_inserted"

def statementsExecutedMetric : String := "statements_executed"

def executionTime? (r : Report) : Option String := r.metrics.get? executionTimeMetric

/-! ### JSON -/

def toJson (r : Report) : Value :=
  .object [
    ("schema_valid", .bool r.schemaValid),
    ("data_valid", .bool r.dataValid),
    ("errors", .array (r.errors.map .string)),
    ("performance_metrics", .object (r.metrics.entries.map fun (k, v) => (k, .string v)))]

/-- A report of which some fields are known. -/
structure Draft where
  schemaValid : Option Bool
  dataValid : Option Bool
  errors : Option (List String)
  metrics : Option (List (String × String))

/-- Reads a report. Errors and metrics stand inside the record, one container deep. Other fields are
passed over, and the four fields may come in any order. -/
def recordReader : RecordReader Draft Report where
  name := "struct TestResult"
  fields := [
    ⟨"schema_valid", fun d => d.schemaValid.isSome, fun d cs =>
      (Json.bool cs).map (·.map fun b => { d with schemaValid := some b })⟩,
    ⟨"data_valid", fun d => d.dataValid.isSome, fun d cs =>
      (Json.bool cs).map (·.map fun b => { d with dataValid := some b })⟩,
    ⟨"errors", fun d => d.errors.isSome, fun d cs =>
      (Json.list (Json.depthLimit - 1) Json.string cs).map
        (·.map fun errors => { d with errors := some errors })⟩,
    ⟨"performance_metrics", fun d => d.metrics.isSome, fun d cs =>
      (Json.object (Json.depthLimit - 1) Json.string cs).map
        (·.map fun metrics => { d with metrics := some metrics })⟩]
  blank := ⟨none, none, none, none⟩
  build d := do
    return ⟨← d.schemaValid, ← d.dataValid, ← d.errors, .ofPairs (← d.metrics)⟩

/-- The report that a text holds, or why it holds none. -/
def parse (source : String) : Except String Report := Json.parse recordReader.read source

end Report

/-- How a run ended. An aborted run still has a report of what it did. -/
inductive Outcome where
  | completed (report : Report)
  | aborted (report : Report) (error : SeedError)

namespace Outcome

def report : Outcome → Report
  | .completed r => r
  | .aborted r _ => r

def fatalError? : Outcome → Option SeedError
  | .completed _ => none
  | .aborted _ e => some e

def isAborted (o : Outcome) : Bool := o.fatalError?.isSome

end Outcome

end SchemaSeed
