import SchemaSeed.Proofs.Run.Perform

/-!
# How a ledger is closed

A run ends by `abort` or by `finish`. Either way the report of its outcome holds what the
ledger held (`Closed`): all errors, and the counts as metrics.
-/

namespace SchemaSeed

/-! ## Metrics -/

namespace Metrics

/-- A metric that is placed is found under its name, and the others are found as before. By
induction on the entries, since a new one goes before the first that is greater. -/
theorem find?_place (name value key : String) (entries : List (String × String)) :
    ((place name value entries).find? fun entry => entry.1 == key).map (·.2) =
      if name = key then some value
      else (entries.find? fun entry => entry.1 == key).map (·.2) := by
  fun_induction place name value entries with
  | case1 => by_cases h : name = key <;> simp [h]
  | case2 k v rest hlt => by_cases h : name = key <;> simp [h]
  | case3 v rest hlt => by_cases h : name = key <;> simp [h]
  | case4 k v rest hlt hne ih =>
    by_cases hk : k = key
    · have h : name ≠ key := fun heq => hne (heq.trans hk.symm)
      simp [hk, h]
    · simp [hk, ih]

/-- A metric has the value that it was set to last; setting one does not touch the others. -/
@[simp] theorem get?_set (m : Metrics) (name value key : String) :
    (m.set name value).get? key = if name = key then some value else m.get? key :=
  find?_place name value key m.entries

end Metrics

/-! ## Reports -/

/-- The report in which a run with this ledger ends, aborted by `fatal` or completed. The flag of
the data is the only part that depends on the way in which it ends. -/
structure Closed (l : Ledger) (fatal : Option SeedError) (o : Outcome) : Prop where
  ending : o.fatalError? = fatal
  schemaValid : o.report.schemaValid = l.report.schemaValid
  dataValid : o.report.dataValid = (fatal.isNone && l.report.errors.isEmpty)
  errors : o.report.errors = l.report.errors ++ fatal.toList.map SeedError.message
  tablesSeeded :
    o.report.metrics.get? Report.tablesSeededMetric = some (toString l.tablesSeeded)
  rowsInserted :
    o.report.metrics.get? Report.rowsInsertedMetric = some (toString l.rowsInserted)
  statementsExecuted :
    o.report.metrics.get? Report.statementsExecutedMetric = some (toString l.statementsExecuted)

theorem fatalError?_eq_none {o : Outcome} :
    o.fatalError? = none ↔ ∃ report, o = .completed report := by
  cases o <;> simp [Outcome.fatalError?]

theorem fatalError?_eq_some {o : Outcome} {e : SeedError} :
    o.fatalError? = some e ↔ ∃ report, o = .aborted report e := by
  cases o <;> simp [Outcome.fatalError?]

/-- The counts are there as metrics when the figures are put into the report. The execution time,
which is placed last, has another name. -/
theorem get?_withMetrics (l : Ledger) (now : Nat) :
    (l.withMetrics now).metrics.get? Report.tablesSeededMetric = some (toString l.tablesSeeded) ∧
    (l.withMetrics now).metrics.get? Report.rowsInsertedMetric = some (toString l.rowsInserted) ∧
    (l.withMetrics now).metrics.get? Report.statementsExecutedMetric =
      some (toString l.statementsExecuted) := by
  have htables : Report.statementsExecutedMetric ≠ Report.tablesSeededMetric ∧
      Report.rowsInsertedMetric ≠ Report.tablesSeededMetric := by decide
  have hrows : Report.statementsExecutedMetric ≠ Report.rowsInsertedMetric := by decide
  simp only [Ledger.withMetrics, Report.setMetric, Metrics.get?_set]
  simp [htables, hrows]

section
variable {σ : Type} (x : Executor σ) (l : Ledger) (s : σ)

/-- An abort adds its reason to the errors and tells of it; no statement is issued any more. -/
theorem abort_spec (e : SeedError) :
    let t := x.perform (l.abort e) s
    Closed l (some e) t.result ∧ t.issued = [] ∧
      loggedErrors t.events = [(e.isFatal, e.message)] := by
  obtain ⟨htables, hrows, hstatements⟩ := get?_withMetrics
    { l with report := { l.report.record e with dataValid := false } } (x.now s)
  exact ⟨⟨rfl, rfl, rfl, rfl, htables, hrows, hstatements⟩, rfl, rfl⟩

/-- The end of a run that was not aborted, in the same terms. -/
theorem finish_spec :
    let t := x.perform l.finish s
    Closed l none t.result ∧ t.issued = [] ∧ loggedErrors t.events = [] := by
  obtain ⟨htables, hrows, hstatements⟩ := get?_withMetrics
    { l with report := { l.report with dataValid := l.report.errors.isEmpty } } (x.now s)
  have herrors : l.report.errors = l.report.errors ++ [] := (List.append_nil _).symm
  exact ⟨⟨rfl, rfl, rfl, herrors, htables, hrows, hstatements⟩, rfl, rfl⟩

end

end SchemaSeed
