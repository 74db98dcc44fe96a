import SchemaSeed.Proofs.Run.Answers
import SchemaSeed.Proofs.Run.Ledger

/-!
# The account of a run

A whole run against any executor. What it is to issue (`schemaPlan`, `seedingPlan`) and
whether it aborts (`abortReason`) depend on the executor only through its answer to the
question whether it is alive. `run_account` puts this together with what the two loops and
the closing of the ledger do; all that is said about runs follows from it.
-/

namespace SchemaSeed

namespace Run

/-- The errors that a run records before it ends, in the order of their statements. -/
def recorded (tables : List String) (applied inserted : List Issued) : List SeedError :=
  schemaErrors 1 applied ++ insertErrors tables inserted

/-- Where every statement was accepted there is nothing to record. -/
theorem recorded_eq_nil {applied inserted : List Issued} (happlied : ∀ i ∈ applied, i.accepted)
    (hinserted : ∀ i ∈ inserted, i.accepted) (tables : List String) :
    recorded tables applied inserted = [] := by
  rw [recorded, schemaErrors_eq_nil.2 happlied, insertErrors_eq_nil hinserted, List.append_nil]

end Run

/-- The ledger of a run that began at `started`, from the answers to the statements of the schema,
`applied`, and to the inserts into `tables`. The counters and the errors are functions of these
answers alone. -/
def Ledger.ofAnswers (started : Nat) (schemaValid : Bool) (tables : List String)
    (applied inserted : List Issued) : Ledger :=
  Ledger.enter ⟨started, { Report.blank with schemaValid }, 0, 0, 0⟩
    (Run.recorded tables applied inserted) (acceptedCount inserted) (affectedRows inserted)
    (acceptedCount applied + acceptedCount inserted)

section
variable (started : Nat) (schemaValid : Bool) (tables : List String)
  (applied inserted : List Issued)

@[simp] theorem schemaValid_ofAnswers :
    (Ledger.ofAnswers started schemaValid tables applied inserted).report.schemaValid =
      schemaValid := rfl

@[simp] theorem errors_ofAnswers :
    (Ledger.ofAnswers started schemaValid tables applied inserted).report.errors =
      (Run.recorded tables applied inserted).map SeedError.message := rfl

@[simp] theorem tablesSeeded_ofAnswers :
    (Ledger.ofAnswers started schemaValid tables applied inserted).tablesSeeded =
      acceptedCount inserted :=
  Nat.zero_add _

@[simp] theorem rowsInserted_ofAnswers :
    (Ledger.ofAnswers started schemaValid tables applied inserted).rowsInserted =
      .ofNat (affectedRows inserted) :=
  UInt64.zero_add _

@[simp] theorem statementsExecuted_ofAnswers :
    (Ledger.ofAnswers started schemaValid tables applied inserted).statementsExecuted =
      acceptedCount applied + acceptedCount inserted :=
  Nat.zero_add _

end

/-- What a run has done when it is through: `applied` are the statements of the schema with their
answers, and `inserted` are the inserts. The statements are those that were planned, and the ledger
is made of their answers, however the run ended. -/
structure Account {σ : Type} (alive : Except String Unit) (started : Nat)
    (schema mockData : String) (applied inserted : List Issued) (t : Trace σ Outcome) :
    Prop where
  issued : t.issued = applied ++ inserted
  appliedSql : applied.map (·.sql) = Run.schemaPlan alive schema
  insertedSql : inserted.map (fun i => some i.sql) =
    (Run.seedingPlan alive schema mockData).map fun (table, rows) =>
      Sql.insertStatement table rows
  closed : Closed
    (.ofAnswers started (alive.isOk && applied.all Issued.accepted)
      ((Run.seedingPlan alive schema mockData).map (·.1)) applied inserted)
    (Run.abortReason alive schema mockData) t.result
  logged : loggedErrors t.events =
    (Run.recorded ((Run.seedingPlan alive schema mockData).map (·.1)) applied inserted).map
        (fun e => (false, e.message)) ++
      (Run.abortReason alive schema mockData).toList.map fun e => (true, e.message)

section
variable {σ : Type} {alive : Except String Unit} {started : Nat} {schema mockData : String}
  {applied inserted : List Issued} {t : Trace σ Outcome}

/-- All that a run issues is what was planned, in one list: the statements of the schema, and then
the inserts. -/
theorem Account.issuedSql (h : Account alive started schema mockData applied inserted t) :
    t.issued.map (fun i => some i.sql) = (Run.schemaPlan alive schema).map some ++
      (Run.seedingPlan alive schema mockData).map
        fun (table, rows) => Sql.insertStatement table rows := by
  rw [h.issued, List.map_append, h.insertedSql, ← h.appliedSql, List.map_map]
  rfl

/-- A run that completes without a rejection reports no error, and all tables that it was to seed.
The counter for tables counts accepted inserts, and there is one for each. -/
theorem Account.completed (h : Account alive started schema mockData applied inserted t)
    (hreason : Run.abortReason alive schema mockData = none)
    (happlied : ∀ i ∈ applied, i.accepted) (hinserted : ∀ i ∈ inserted, i.accepted) :
    ∃ report, t.result = .completed report ∧
      report.errors = [] ∧ report.schemaValid = true ∧ report.dataValid = true ∧
      report.metrics.get? Report.tablesSeededMetric =
        some (toString (Run.seedingPlan alive schema mockData).length) := by
  have hclosed := h.closed
  have hnone := Run.recorded_eq_nil happlied hinserted
    ((Run.seedingPlan alive schema mockData).map (·.1))
  rw [hreason] at hclosed
  -- Without errors the report is blank but for the counters.
  obtain ⟨report, hreport⟩ := fatalError?_eq_none.1 hclosed.ending
  rw [hreport] at hclosed ⊢
  refine ⟨report, rfl, ?_, ?_, ?_, ?_⟩
  · have herrors := hclosed.errors
    rwa [errors_ofAnswers, hnone] at herrors
  · rw [(Run.abortReason_eq_none.1 hreason).1] at hclosed
    exact hclosed.schemaValid.trans (List.all_eq_true.2 happlied)
  · have hvalid := hclosed.dataValid
    rwa [errors_ofAnswers, hnone] at hvalid
  · -- All inserts were accepted, and there is one for each table.
    have hlength := congrArg List.length h.insertedSql
    rw [List.length_map, List.length_map] at hlength
    have hcount := hclosed.tablesSeeded
    rwa [tablesSeeded_ofAnswers, acceptedCount_eq_length hinserted, hlength] at hcount

end

section
variable {σ : Type} (x : Executor σ)

@[simp] theorem perform_logUndeclared (tables : List String) (s : σ) :
    x.perform (Run.logUndeclared tables) s = ⟨(), s, tables.map .mockTableSkipped, []⟩ := by
  induction tables with
  | nil => rfl
  | cons table rest ih =>
    rw [Run.logUndeclared, Executor.perform_say_bind, ih]
    rfl

theorem loggedErrors_mockTableSkipped (tables : List String) :
    loggedErrors (tables.map .mockTableSkipped) = [] := by
  simp [loggedErrors]

/-- Seeding tells of the tables that are not declared first, and issues nothing for them. -/
theorem perform_seed (data : MockData) (order : List String) (l : Ledger) (s : σ) :
    x.perform (Run.seed data order l) s =
      let t := x.perform (Run.seedTables data l order) s
      let u := x.perform t.result.finish t.state
      ⟨u.result, u.state,
        .tableOrderResolved order ::
          ((Run.undeclaredTables data order).map .mockTableSkipped ++ (t.events ++ u.events)),
        t.issued ++ u.issued⟩ := by
  rw [Run.seed, Executor.perform_say_bind, Executor.perform_bind, perform_logUndeclared]
  simp only [Executor.perform_bind, List.nil_append]

/-- What applying the schema has done when it is through, in the terms in which an account is given:
each statement was issued, and its rejection recorded under its number. -/
structure SchemaApplied (started : Nat) (schema : String) (t : Trace σ Ledger) : Prop where
  issued : t.issued.map (·.sql) = Run.schemaStatements schema
  ledger : t.result = .ofAnswers started (t.issued.all Issued.accepted) [] t.issued []
  logged : loggedErrors t.events =
    (Run.recorded [] t.issued []).map fun e => (false, e.message)

/-- The loop over the statements (`applyStatements_spec`), with the flag and the closing event
around it. -/
theorem applySchema_spec (started : Nat) (schema : String) (s : σ) :
    SchemaApplied started schema
      (x.perform (Run.applySchema schema ⟨started, .blank, 0, 0, 0⟩) s) := by
  obtain ⟨hissued, hvalid, hledger, hlogged⟩ :=
    applyStatements_spec x 1 ⟨started, .blank, 0, 0, 0⟩ (Run.schemaStatements schema) s
  rw [Run.applySchema, Executor.perform_bind]
  simp only [Executor.perform_pure, List.append_nil]
  refine ⟨hissued, ?_, ?_⟩
  · simp only [hvalid, hledger]
    simp [Ledger.ofAnswers, Ledger.enter, Run.recorded]
  · simpa [Run.recorded] using hlogged

variable {schema mockData engine : String} {started : Nat} {t : Trace σ Ledger}

/-- A run that aborts once the schema is applied. It has an account without inserts, and its error
is the last that is recorded. -/
theorem SchemaApplied.abort (h : SchemaApplied started schema t) {e : SeedError}
    (hreason : Run.abortReason (.ok ()) schema mockData = some e) (hfatal : e.isFatal = true)
    (hplan : Run.seedingPlan (.ok ()) schema mockData = []) :
    let u := x.perform (t.result.abort e) t.state
    Account (.ok ()) started schema mockData t.issued []
      ⟨u.result, u.state, .runStarted engine :: (t.events ++ u.events),
        t.issued ++ u.issued⟩ := by
  obtain ⟨hclosed, hnone, herror⟩ := abort_spec x t.result t.state e
  refine ⟨by rw [hnone], h.issued, by rw [hplan]; rfl, ?_, ?_⟩
  · rw [hreason, hplan]
    rwa [h.ledger] at hclosed ⊢
  · rw [hreason, hplan, loggedErrors_of_ne _ (by simp), loggedErrors_append, h.logged, herror,
      hfatal]
    rfl

/-- A run that has a document and an order when the schema is applied. Its inserts are those of the
loop over the tables, and what they record comes after the errors of the schema. -/
theorem SchemaApplied.seed (h : SchemaApplied started schema t) {data : MockData}
    {order : List String} (hreason : Run.abortReason (.ok ()) schema mockData = none)
    (hplan : Run.seedingPlan (.ok ()) schema mockData = tablesWithRows data order) :
    let u := x.perform (Run.seed data order t.result) t.state
    ∃ inserted, Account (.ok ()) started schema mockData t.issued inserted
      ⟨u.result, u.state, .runStarted engine :: (t.events ++ u.events),
        t.issued ++ u.issued⟩ := by
  have hseeded := seedTables_spec x data t.result order t.state
  rw [perform_seed]
  generalize x.perform (Run.seedTables data t.result order) t.state = u at hseeded ⊢
  dsimp only
  obtain ⟨hclosed, hnone, hend⟩ := finish_spec x u.result u.state
  refine ⟨u.issued, by rw [hnone, List.append_nil], h.issued, by rw [hplan, hseeded.issued],
    ?_, ?_⟩
  · rw [hreason, hplan]
    -- The ledger at the end is the one after the schema, with the inserts entered.
    have hledger : u.result = .ofAnswers started ((Except.ok () : Except String Unit).isOk &&
        t.issued.all Issued.accepted) ((tablesWithRows data order).map (·.1)) t.issued u.issued := by
      rw [hseeded.ledger, h.ledger]
      simp [Ledger.ofAnswers, Ledger.enter_enter, Run.recorded, Except.isOk, Except.toBool]
    rwa [← hledger]
  · rw [hreason, hplan]
    simp [h.logged, hseeded.logged, hend, loggedErrors_mockTableSkipped, Run.recorded]

/-- Every run has an account. It is given for each way in which a run can end: no answer to the
ping, no document, no order, or none of these. -/
theorem run_account (schema mockData : String) (s : σ) :
    ∃ applied inserted, Account (x.ping s).1 (x.now s) schema mockData applied inserted
      (x.run schema mockData s) := by
  unfold Executor.run Run.run Ledger.start
  simp only [bind_assoc, pure_bind, Executor.perform_time_bind, Executor.perform_say_bind,
    Executor.perform_checkAlive_bind]
  cases hping : (x.ping s).1 with
  | error message =>
    -- No answer: nothing is issued.
    obtain ⟨hclosed, hissued, hlogged⟩ := abort_spec x ⟨x.now s, .blank, 0, 0, 0⟩ (x.ping s).2
      (.connection ("ping failed: " ++ message))
    refine ⟨[], [], hissued, rfl, rfl, hclosed, ?_⟩
    rw [loggedErrors_of_ne _ (by simp), hlogged]
    rfl
  | ok =>
    -- From here on the statements of the schema are issued, whatever comes of the mock data.
    have happlied := applySchema_spec x (x.now s) schema (x.ping s).2
    simp only [Run.checkSchemaAndData, Executor.perform_bind]
    generalize x.perform (Run.applySchema schema _) (x.ping s).2 = t at happlied ⊢
    cases hparse : MockData.parse mockData with
    | error message =>
      exact ⟨_, [], happlied.abort x (by simp [Run.abortReason, hparse]) rfl
        (by simp [Run.seedingPlan, hparse])⟩
    | ok data =>
      cases horder : orderTables (Script.extractDependencies schema) with
      | error tables =>
        exact ⟨_, [], happlied.abort x (by simp [Run.abortReason, hparse, horder]) rfl
          (by simp [Run.seedingPlan, hparse, horder])⟩
      | ok order =>
        exact ⟨_, happlied.seed x (by simp [Run.abortReason, hparse, horder])
          (by simp [Run.seedingPlan, hparse, horder])⟩

/-! ## Completed runs -/

/-- A run completes exactly if the database answers, the mock data can be read and the tables have
an order. Rejected statements do not stop it. -/
theorem exists_completed_iff {s : σ} :
    (∃ report, (x.run schema mockData s).result = .completed report) ↔
      (x.ping s).1 = .ok () ∧ (∃ data, MockData.parse mockData = .ok data) ∧
        ∃ order, orderTables (Script.extractDependencies schema) = .ok order := by
  obtain ⟨applied, inserted, h⟩ := run_account x schema mockData s
  rw [← fatalError?_eq_none, h.closed.ending]
  exact Run.abortReason_eq_none

/-- A run that nothing aborts applies the schema and then seeds the tables. -/
theorem run_of_completes {data : MockData} {order : List String} {s : σ}
    (halive : (x.ping s).1 = .ok ()) (hdata : MockData.parse mockData = .ok data)
    (horder : orderTables (Script.extractDependencies schema) = .ok order) :
    x.run schema mockData s =
      let t := x.perform (Run.applySchema schema ⟨x.now s, .blank, 0, 0, 0⟩) (x.ping s).2
      let u := x.perform (Run.seed data order t.result) t.state
      ⟨u.result, u.state, .runStarted x.engine :: (t.events ++ u.events),
        t.issued ++ u.issued⟩ := by
  unfold Executor.run Run.run Ledger.start
  simp only [bind_assoc, pure_bind, Executor.perform_time_bind, Executor.perform_say_bind,
    Executor.perform_checkAlive_bind, halive]
  simp only [Run.checkSchemaAndData, hdata, horder, Executor.perform_bind]

end

end SchemaSeed
