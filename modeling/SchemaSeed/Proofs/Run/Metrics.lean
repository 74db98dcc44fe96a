import SchemaSeed.Run.Executor

/-!
# The metrics of a run

However a run ends, its report has the same four metrics (`ends_run`). The ledger has none until
it is closed, and closing it is the last thing that happens to it. What is true of all ends of a
dialogue (`Dialogue.Ends`) is told step by step, whatever the answers are.
-/

namespace SchemaSeed

variable {α β : Type}

/-! ## Ends of a dialogue -/

namespace Dialogue

/-- Whatever the answers are, the dialogue comes to a result of this kind. -/
def Ends (P : α → Prop) : Dialogue α → Prop
  | .done a => P a
  | .log _ k => Ends P k
  | .clock k => ∀ now, Ends P (k now)
  | .ping k => ∀ answer, Ends P (k answer)
  | .execute _ k => ∀ answer, Ends P (k answer)

/-- A dialogue in two parts ends like its second part, which begins with a result of the first. By
induction on the first part. -/
theorem Ends.bind {P : α → Prop} {Q : β → Prop} {d : Dialogue α} {f : α → Dialogue β}
    (h : d.Ends P) (hf : ∀ a, P a → (f a).Ends Q) : (d >>= f).Ends Q := by
  change Ends Q (d.bind f)
  induction d with
  | done a => exact hf a h
  | log e k ih => exact ih h
  | clock k ih => exact fun now => ih now (h now)
  | ping k ih => exact fun answer => ih answer (h answer)
  | execute sql k ih => exact fun answer => ih answer (h answer)

end Dialogue

/-! ## Ledgers -/

def Ledger.IsOpen (l : Ledger) : Prop := l.report.metrics = .empty

/-- The report has the figures of a run, and nothing else, in the order of their names. -/
def Report.HasFigures (r : Report) : Prop :=
  Assoc.keys r.metrics.entries = [Report.executionTimeMetric, Report.rowsInsertedMetric,
    Report.statementsExecutedMetric, Report.tablesSeededMetric]

namespace Ledger.IsOpen

variable {l : Ledger}

/-- The four figures come in the order of their names, whatever the numbers are. -/
theorem withMetrics (h : l.IsOpen) (now : Nat) : (l.withMetrics now).HasFigures := by
  rw [IsOpen] at h
  rw [Report.HasFigures, Ledger.withMetrics]
  simp only [Report.setMetric, Metrics.set, h]
  rfl

theorem record (h : l.IsOpen) (error : SeedError) : (l.record error).Ends IsOpen := h

theorem abort (h : l.IsOpen) (error : SeedError) :
    (l.abort error).Ends fun o => o.report.HasFigures :=
  (h.record error).bind fun l h now =>
    withMetrics (l := { l with report := { l.report with dataValid := false } }) h now

theorem finish (h : l.IsOpen) : l.finish.Ends fun o => o.report.HasFigures := fun now =>
  withMetrics (l := { l with report := { l.report with dataValid := l.report.errors.isEmpty } })
    h now

/-! ## Parts of a run -/

/-- By induction on the statements: errors and counters are entered, but no figures. -/
theorem applyStatements (h : l.IsOpen) (index : Nat) (statements : List String) :
    (Run.applyStatements index l statements).Ends fun p => p.2.IsOpen := by
  induction statements generalizing index l with
  | nil => exact h
  | cons statement rest ih =>
    rw [Run.applyStatements]
    intro answer
    cases answer with
    | ok n => exact ih (l := l.countStatement) h (index + 1)
    | error message => exact (h.record _).bind fun l h => (ih h (index + 1)).bind fun p hp => hp

theorem applySchema (h : l.IsOpen) (schema : String) : (Run.applySchema schema l).Ends IsOpen :=
  (h.applyStatements 1 _).bind fun _ h => h

/-- An insert counts a table or enters an error; either leaves the metrics alone. -/
theorem seedTable (h : l.IsOpen) (table : String) (rows : List Row) :
    (Run.seedTable table rows l).Ends IsOpen := by
  rw [Run.seedTable]
  cases Sql.insertStatement table rows with
  | none => exact h
  | some statement =>
    intro answer
    cases answer with
    | ok affected => exact h
    | error message => exact h.record _

/-- By induction on the tables. -/
theorem seedTables (h : l.IsOpen) (data : MockData) (tables : List String) :
    (Run.seedTables data l tables).Ends IsOpen := by
  induction tables generalizing l with
  | nil => exact h
  | cons table rest ih =>
    rw [Run.seedTables]
    cases Assoc.find? data table with
    | none => exact ih h
    | some rows => exact (h.seedTable table rows).bind fun _ h => ih h

end Ledger.IsOpen

/-! ## Runs -/

theorem ends_logUndeclared (tables : List String) :
    (Run.logUndeclared tables).Ends fun _ => True := by
  induction tables with
  | nil => trivial
  | cons table rest ih => exact ih

theorem ends_start : Ledger.start.Ends Ledger.IsOpen := fun _ => rfl

/-- A run whose database is dead, whose documents cannot be used, or that goes to its end has the
figures in its report in each case. So no report of a run lacks them. -/
theorem ends_run (engine schema mockData : String) :
    (Run.run engine schema mockData).Ends fun o => o.report.HasFigures := by
  refine ends_start.bind fun l hl answer => ?_
  cases answer with
  | error message => exact hl.abort _
  | ok =>
    refine (hl.applySchema schema).bind fun l hl => ?_
    cases MockData.parse mockData with
    | error message => exact hl.abort _
    | ok data =>
      cases orderTables (Script.extractDependencies schema) with
      | error tables => exact hl.abort _
      | ok order =>
        refine (ends_logUndeclared _).bind fun _ _ => ?_
        exact (hl.seedTables data order).bind fun _ h => h.finish

theorem ends_unconnected (message : String) :
    (Run.unconnected message).Ends fun o => o.report.HasFigures :=
  ends_start.bind fun _ h => h.abort _

end SchemaSeed
