import SchemaSeed.Duration
import SchemaSeed.Report
import SchemaSeed.Run.Dialogue

/-!
# The ledger of a run

While a run goes on, its ledger holds the report so far and counts what was done. The
figures are put into the report when the run ends, in whichever way it ends.
-/

namespace SchemaSeed

structure Ledger where
  /-- What the clock showed when the run began. -/
  started : Nat
  report : Report
  tablesSeeded : Nat
  /-- The sum of the rows that the inserts reported, modulo `2 ^ 64`. -/
  rowsInserted : UInt64
  statementsExecuted : Nat

namespace Ledger

def start : Dialogue Ledger := do return ⟨← .time, .blank, 0, 0, 0⟩

/-- Enters an error, which goes into the report and into the log. Whether the run goes on is not
decided here. -/
def record (l : Ledger) (error : SeedError) : Dialogue Ledger := do
  .say (.runError error.isFatal error.message)
  return { l with report := l.report.record error }

/-- Enters a statement of the schema that was accepted. -/
def countStatement (l : Ledger) : Ledger :=
  { l with statementsExecuted := l.statementsExecuted + 1 }

/-- Enters a table whose rows were accepted. The insert is one more statement that was executed. -/
def countTable (l : Ledger) (rows : UInt64) : Ledger :=
  { l with
    tablesSeeded := l.tablesSeeded + 1
    rowsInserted := l.rowsInserted + rows
    statementsExecuted := l.statementsExecuted + 1 }

/-- The report with the figures of a run that ends at the time `now`. They are set at the end, so
that a report has all of them or none. -/
def withMetrics (l : Ledger) (now : Nat) : Report :=
  let elapsed := (Duration.ofNanos (now - l.started)).text
  l.report
    |>.setMetric Report.executionTimeMetric elapsed
    |>.setMetric Report.tablesSeededMetric (toString l.tablesSeeded)
    |>.setMetric Report.rowsInsertedMetric (toString l.rowsInserted)
    |>.setMetric Report.statementsExecutedMetric (toString l.statementsExecuted)

/-- Ends the run with an error. The data counts as invalid, whatever was accepted before. -/
def abort (l : Ledger) (error : SeedError) : Dialogue Outcome := do
  let l ← l.record error
  let l := { l with report := { l.report with dataValid := false } }
  let report := l.withMetrics (← .time)
  .say (.runAborted (report.executionTime?.getD ""))
  return .aborted report error

/-- Ends the run; the data is valid if no error was recorded. -/
def finish (l : Ledger) : Dialogue Outcome := do
  let l := { l with report := { l.report with dataValid := l.report.errors.isEmpty } }
  let report := l.withMetrics (← .time)
  .say (.runCompleted report.schemaValid report.dataValid report.errors.length
    (report.executionTime?.getD ""))
  return .completed report

end Ledger

end SchemaSeed
