import SchemaSeed.Proofs.Dependency.Order
import SchemaSeed.Proofs.Run.Account

/-!
# What a run issues and what it reports

Two readings of the account of a run, both against any executor:

* **Statements** (`run_statements`): which statements a run issues, in which order, and in
  which of the four ways it ends.
* **Report** (`run_report`): errors, flags, metrics and logged errors are an exact record of
  the answers.
-/

namespace SchemaSeed

variable {σ : Type}

/-! ## Statements -/

/-- A dead database is asked for nothing. Otherwise all statements of the schema are issued
in their order, and then, if the mock data is a document and the tables have an order, one
insert for each table of the order that has rows. How the executor answers changes nothing
about that. The run aborts for the first of three reasons that holds: a dead database, mock
data that is no document, tables without an order. -/
theorem run_statements (x : Executor σ) (schema mockData : String) (s : σ) :
    let t := x.run schema mockData s
    let statements := Script.splitStatements (Script.stripComments schema)
    (match (x.ping s).1, MockData.parse mockData,
        orderTables (Script.extractDependencies schema) with
      | .error _, _, _ => t.issued = []
      | .ok (), .ok data, .ok order =>
        t.issued.map (fun i => some i.sql) = statements.map some ++
          (tablesWithRows data order).map (fun (table, rows) => Sql.insertStatement table rows) ∧
        ((tablesWithRows data order).map (·.1)).Nodup
      | .ok (), _, _ => t.issued.map (·.sql) = statements) ∧
    (∀ text, t.result.fatalError? = some (.connection text) ↔
      ∃ message, (x.ping s).1 = .error message ∧ text = "ping failed: " ++ message) ∧
    (∀ message, t.result.fatalError? = some (.mockDataParse message) ↔
      (x.ping s).1 = .ok () ∧ MockData.parse mockData = .error message) ∧
    (∀ tables, t.result.fatalError? = some (.cycle tables) ↔
      (x.ping s).1 = .ok () ∧ (∃ data, MockData.parse mockData = .ok data) ∧
        orderTables (Script.extractDependencies schema) = .error tables) ∧
    ((∃ report, t.result = .completed report) ↔
      (x.ping s).1 = .ok () ∧ (∃ data, MockData.parse mockData = .ok data) ∧
        ∃ order, orderTables (Script.extractDependencies schema) = .ok order) := by
  obtain ⟨applied, inserted, h⟩ := run_account x schema mockData s
  have hissued := h.issuedSql
  dsimp only
  refine ⟨?_, ?_, ?_, ?_, ?_⟩
  · split
    · next message hping =>
      rw [hping] at hissued
      simpa only [Run.schemaPlan, Run.seedingPlan, List.map_nil, List.append_nil,
        List.map_eq_nil_iff] using hissued
    · next data order hping hparse horder =>
      simp only [Run.schemaPlan, Run.seedingPlan, hping, hparse, horder] at hissued
      exact ⟨hissued, nodup_tablesWithRows (nodup_order horder)⟩
    -- Without a document or an order nothing is planned for the tables.
    · next hping hother =>
      have hempty : Run.seedingPlan (x.ping s).1 schema mockData = [] := by
        unfold Run.seedingPlan
        split
        · next data order _ hparse horder => exact (hother data order hparse horder).elim
        · rfl
      rw [hempty, hping, List.map_nil, List.append_nil] at hissued
      apply List.map_injective_iff.2 (Option.some_injective String)
      rw [List.map_map]
      exact hissued
  · intro text
    rw [h.closed.ending]
    exact Run.abortReason_eq_connection
  · intro message
    rw [h.closed.ending]
    exact Run.abortReason_eq_mockDataParse
  · intro tables
    rw [h.closed.ending]
    exact Run.abortReason_eq_cycle
  · rw [← fatalError?_eq_none, h.closed.ending]
    exact Run.abortReason_eq_none

/-! ## Report -/

/-- The flag of the schema is set when the database is alive and accepted every statement. -/
theorem schemaValid_iff {alive : Except String Unit} {applied : List Issued} :
    (alive.isOk && applied.all Issued.accepted) = true ↔
      alive = .ok () ∧ ∀ i ∈ applied, i.accepted := by
  cases alive <;> simp [Except.isOk, Except.toBool]

/-- Below the limit of 64 bits, a number and its wrapped form are written alike. -/
theorem toString_ofNat_of_lt {n : Nat} (h : n < UInt64.size) :
    toString (UInt64.ofNat n) = toString n := by
  show toString (UInt64.ofNat n).toNat = toString n
  rw [UInt64.toNat_ofNat_of_lt' h]

/-- The report of a run is an exact record of the answers: its errors are those of the rejected
statements in their order, its flags say whether there were any, and its metrics count the accepted
ones. -/
theorem run_report (x : Executor σ) (schema mockData : String) (s : σ) :
    let t := x.run schema mockData s
    let plan := Run.seedingPlan (x.ping s).1 schema mockData
    let report := t.result.report
    let fatal := t.result.fatalError?.toList
    ∃ applied inserted,
      t.issued = applied ++ inserted ∧
      applied.map (·.sql) = Run.schemaPlan (x.ping s).1 schema ∧
      inserted.map (fun i => some i.sql) =
        plan.map (fun (table, rows) => Sql.insertStatement table rows) ∧
      -- The errors, in the order in which they came about.
      report.errors = (schemaErrors 1 applied ++ insertErrors (plan.map (·.1)) inserted ++
        fatal).map SeedError.message ∧
      loggedErrors t.events =
        (schemaErrors 1 applied ++ insertErrors (plan.map (·.1)) inserted).map
          (fun e => (false, e.message)) ++ fatal.map (fun e => (true, e.message)) ∧
      -- The flags.
      (report.schemaValid = true ↔ (x.ping s).1 = .ok () ∧ ∀ i ∈ applied, i.accepted) ∧
      (report.dataValid = true ↔ (∃ r, t.result = .completed r) ∧ report.errors = []) ∧
      (report.dataValid = true → report.schemaValid = true) ∧
      -- The metrics.
      report.metrics.get? "statements_executed" = some (toString (acceptedCount t.issued)) ∧
      report.metrics.get? "tables_seeded" = some (toString (acceptedCount inserted)) ∧
      (affectedRows inserted < UInt64.size →
        report.metrics.get? "rows_inserted" = some (toString (affectedRows inserted))) := by
  obtain ⟨applied, inserted, h⟩ := run_account x schema mockData s
  have hclosed := h.closed
  refine ⟨applied, inserted, h.issued, h.appliedSql, h.insertedSql, ?_, ?_, ?_, ?_, ?_, ?_, ?_, ?_⟩
  · rw [hclosed.errors, hclosed.ending]
    simp [Run.recorded]
  · rw [h.logged, hclosed.ending]
    rfl
  · rw [hclosed.schemaValid]
    exact schemaValid_iff
  · rw [hclosed.dataValid, hclosed.errors, ← fatalError?_eq_none, hclosed.ending]
    cases Run.abortReason (x.ping s).1 schema mockData <;> simp
  -- Data are valid only if there is no error at all, and so none of the schema.
  · intro hvalid
    rw [hclosed.dataValid, Bool.and_eq_true, Option.isNone_iff_eq_none, List.isEmpty_iff] at hvalid
    obtain ⟨hreason, hnone⟩ := hvalid
    have happlied : schemaErrors 1 applied = [] := by
      simp only [errors_ofAnswers, Run.recorded, List.map_eq_nil_iff, List.append_eq_nil_iff]
        at hnone
      exact hnone.1
    rw [hclosed.schemaValid]
    exact schemaValid_iff.2 ⟨(Run.abortReason_eq_none.1 hreason).1, schemaErrors_eq_nil.1 happlied⟩
  · have hcount := hclosed.statementsExecuted
    rwa [statementsExecuted_ofAnswers, ← acceptedCount_append, ← h.issued] at hcount
  · have hcount := hclosed.tablesSeeded
    rwa [tablesSeeded_ofAnswers] at hcount
  · intro hlt
    have hrows := hclosed.rowsInserted
    rwa [rowsInserted_ofAnswers, toString_ofNat_of_lt hlt] at hrows

end SchemaSeed
