import Mathlib.Data.List.Forall2
import SchemaSeed.Database.Playbook
import SchemaSeed.Proofs.Run.Ledger
import SchemaSeed.Proofs.Run.Likeness

/-!
# What of a document matters

A run asks a document for the rows of the tables of the order only, and the rows of a table for
the columns of the first only. Two documents that agree on these (`MockData.SeedsAlike`) may
differ in the order of their tables, in that of the columns after the first row, and in columns
and tables besides. The runs then are alike as dialogues (`run_alike`): they issue the same
statements, and their outcomes differ in the execution time at most
(`run_ignores_document_order`).
-/

namespace SchemaSeed

/-! ## Rows and documents -/

/-- The rows give the same values to the columns; a column that one of them lacks counts as null. -/
def Row.SameIn (columns : List String) (row row' : Row) : Prop :=
  ∀ column ∈ columns, (Assoc.find? row' column).getD .null = (Assoc.find? row column).getD .null

/-- The first rows are the same, and the others give the same values to the columns of the first,
which are the columns of the insert. -/
inductive SameRows : List Row → List Row → Prop where
  | nil : SameRows [] []
  | cons (first : Row) {rest rest' : List Row}
    (h : List.Forall₂ (Row.SameIn (Assoc.keys first)) rest rest') :
    SameRows (first :: rest) (first :: rest')

/-- The rows of a table; a table that is not in the document has none. -/
def MockData.rowsOf (data : MockData) (table : String) : List Row :=
  (Assoc.find? data table).getD []

/-- The documents have the same rows for the tables of the order. Nothing is asked of other tables,
nor of the places of the tables. -/
def MockData.SeedsAlike (order : List String) (data data' : MockData) : Prop :=
  ∀ table ∈ order, SameRows (data.rowsOf table) (data'.rowsOf table)

/-- The cells of a row are looked up by the columns of the first, so what else it has does not show.
-/
theorem Row.SameIn.tuple_eq {columns : List String} {row row' : Row}
    (h : Row.SameIn columns row row') : Sql.tuple columns row' = Sql.tuple columns row := by
  have hcells : columns.map (Sql.cell row') = columns.map (Sql.cell row) :=
    List.map_congr_left fun column hcolumn => congrArg Sql.literal (h column hcolumn)
  rw [Sql.tuple, Sql.tuple, hcells]

theorem map_tuple_eq {columns : List String} {rows rows' : List Row}
    (h : List.Forall₂ (Row.SameIn columns) rows rows') :
    rows'.map (Sql.tuple columns) = rows.map (Sql.tuple columns) := by
  induction h with
  | nil => rfl
  | cons hrow _ ih => rw [List.map_cons, List.map_cons, hrow.tuple_eq, ih]

/-- Rows that are the same in this sense are written as the same statement. -/
theorem SameRows.insertStatement_eq {rows rows' : List Row} (h : SameRows rows rows')
    (table : String) : Sql.insertStatement table rows' = Sql.insertStatement table rows := by
  cases h with
  | nil => rfl
  | cons first h => simp only [Sql.insertStatement, List.map_cons, map_tuple_eq h]

/-! ## Ledgers and reports -/

def Ledger.SameButStart (l l' : Ledger) : Prop := ∃ n, l' = { l with started := n }

/-- The reports differ in the execution time at most, and both of them have one, or neither has. -/
structure Report.SameButTime (r r' : Report) : Prop where
  schemaValid : r'.schemaValid = r.schemaValid
  dataValid : r'.dataValid = r.dataValid
  errors : r'.errors = r.errors
  metrics : ∀ name ≠ Report.executionTimeMetric, r'.metrics.get? name = r.metrics.get? name
  timed : r'.executionTime?.isSome = r.executionTime?.isSome

/-- The runs ended in the same way, with the same report but for the execution time. -/
inductive Outcome.SameButTime : Outcome → Outcome → Prop where
  | completed {r r' : Report} (h : r.SameButTime r') : SameButTime (.completed r) (.completed r')
  | aborted {r r' : Report} (error : SeedError) (h : r.SameButTime r') :
    SameButTime (.aborted r error) (.aborted r' error)

/-- Whatever the clock shows, the report has an execution time in the end. -/
theorem isSome_executionTime?_withMetrics (l : Ledger) (now : Nat) :
    (l.withMetrics now).executionTime?.isSome = true := by
  have hne : Report.statementsExecutedMetric ≠ Report.executionTimeMetric ∧
      Report.rowsInsertedMetric ≠ Report.executionTimeMetric ∧
      Report.tablesSeededMetric ≠ Report.executionTimeMetric := by decide
  simp [Ledger.withMetrics, Report.setMetric, Report.executionTime?, hne]

/-- The figures leave the rest of the report as it is, so that what was recorded can be read off it.
-/
theorem withMetrics_keeps (l : Ledger) (now : Nat) :
    (l.withMetrics now).schemaValid = l.report.schemaValid ∧
      (l.withMetrics now).dataValid = l.report.dataValid ∧
      (l.withMetrics now).errors = l.report.errors := ⟨rfl, rfl, rfl⟩

/-- The clock shows in the execution time only; the other figures are counters. -/
theorem Ledger.SameButStart.withMetrics {l l' : Ledger} (h : l.SameButStart l') (now now' : Nat) :
    (l.withMetrics now).SameButTime (l'.withMetrics now') := by
  have htimed := isSome_executionTime?_withMetrics l now
  have htimed' := isSome_executionTime?_withMetrics l' now'
  obtain ⟨hschema, hvalid, herrors⟩ := withMetrics_keeps l now
  obtain ⟨hschema', hvalid', herrors'⟩ := withMetrics_keeps l' now'
  obtain ⟨n, rfl⟩ := h
  refine ⟨hschema'.trans hschema.symm, hvalid'.trans hvalid.symm, herrors'.trans herrors.symm,
    fun name hname => ?_, htimed'.trans htimed.symm⟩
  simp only [Ledger.withMetrics, Report.setMetric, Metrics.get?_set, if_neg hname.symm]

/-! ## The parts of a run -/

open Dialogue (Alike)

variable {l l' : Ledger}

/-- The next lemmas take the parts of a run in their order: each of them asks and does the same from
ledgers that differ in their start, and comes to such ledgers again. -/
theorem record_alike (h : l.SameButStart l') (error : SeedError) :
    Alike Ledger.SameButStart (l.record error) (l'.record error) := by
  obtain ⟨n, rfl⟩ := h
  exact .say_left _ (.say_right _ (.pure ⟨n, rfl⟩))

theorem abort_alike (h : l.SameButStart l') (error : SeedError) :
    Alike Outcome.SameButTime (l.abort error) (l'.abort error) := by
  refine (record_alike h error).bind fun l l' h => .time fun now now' => ?_
  obtain ⟨n, rfl⟩ := h
  exact .say_left _ (.say_right _ (.pure (.aborted error
    (Ledger.SameButStart.withMetrics ⟨n, rfl⟩ now now'))))

theorem finish_alike (h : l.SameButStart l') :
    Alike Outcome.SameButTime l.finish l'.finish := by
  obtain ⟨n, rfl⟩ := h
  refine .time fun now now' => ?_
  exact .say_left _ (.say_right _ (.pure (.completed
    (Ledger.SameButStart.withMetrics ⟨n, rfl⟩ now now'))))

/-- By induction on the statements. The flag is the same, because the answers are. -/
theorem applyStatements_alike (index : Nat) (h : l.SameButStart l') (statements : List String) :
    Alike (fun p p' => p'.1 = p.1 ∧ p.2.SameButStart p'.2)
      (Run.applyStatements index l statements) (Run.applyStatements index l' statements) := by
  induction statements generalizing index l l' with
  | nil => exact .pure ⟨rfl, h⟩
  | cons statement rest ih =>
    rw [Run.applyStatements, Run.applyStatements]
    refine .ask statement fun answer => ?_
    cases answer with
    | ok n =>
      obtain ⟨n, rfl⟩ := h
      exact ih (index + 1) ⟨n, rfl⟩
    | error message =>
      refine .say_left _ (.say_right _ ((record_alike h _).bind fun l l' h => ?_))
      exact (ih (index + 1) h).bind fun p p' h => .pure ⟨rfl, h.2⟩

theorem applySchema_alike (h : l.SameButStart l') (schema : String) :
    Alike Ledger.SameButStart (Run.applySchema schema l) (Run.applySchema schema l') := by
  refine (applyStatements_alike 1 h _).bind fun p p' h => ?_
  obtain ⟨hvalid, n, hledger⟩ := h
  obtain ⟨valid, l⟩ := p
  obtain ⟨valid', l'⟩ := p'
  cases hvalid
  cases hledger
  exact .pure ⟨n, rfl⟩

/-- The insert is the same statement, and so is what is made of its answer. -/
theorem seedTable_alike (h : l.SameButStart l') (table : String) {rows rows' : List Row}
    (hrows : SameRows rows rows') :
    Alike Ledger.SameButStart (Run.seedTable table rows l) (Run.seedTable table rows' l') := by
  rw [Run.seedTable, Run.seedTable, hrows.insertStatement_eq]
  cases Sql.insertStatement table rows with
  | none => exact .say_left _ (.say_right _ (.pure h))
  | some sql =>
    refine .ask sql fun answer => ?_
    cases answer with
    | ok n =>
      obtain ⟨n, rfl⟩ := h
      exact .say_left _ (.say_right _ (.pure ⟨n, rfl⟩))
    | error message => exact record_alike h _

/-- A table without rows is passed over, perhaps with an event: there is one if the document names
the table. -/
theorem seedTables_of_rowsOf_eq_nil {data : MockData} {table : String}
    (h : data.rowsOf table = []) (l : Ledger) (rest : List String) :
    Run.seedTables data l (table :: rest) = Run.seedTables data l rest ∨
      Run.seedTables data l (table :: rest) =
        .log (.tableSkipped table) (Run.seedTables data l rest) := by
  rw [Run.seedTables]
  cases hfind : Assoc.find? data table with
  | none => exact .inl rfl
  | some rows =>
    rw [MockData.rowsOf, hfind] at h
    cases h
    exact .inr rfl

theorem seedTables_of_rowsOf_ne_nil {data : MockData} {table : String} {rows : List Row}
    (h : data.rowsOf table = rows) (hne : rows ≠ []) (l : Ledger) (rest : List String) :
    Run.seedTables data l (table :: rest) =
      Run.seedTable table rows l >>= fun l => Run.seedTables data l rest := by
  rw [Run.seedTables]
  cases hfind : Assoc.find? data table with
  | none =>
    rw [MockData.rowsOf, hfind] at h
    exact absurd h.symm hne
  | some found =>
    rw [MockData.rowsOf, hfind] at h
    cases h
    rfl

/-- By induction on the order. A table has rows in both documents or in neither; if it has none,
only the events may differ. -/
theorem seedTables_alike {data data' : MockData} {order : List String} (h : l.SameButStart l')
    (hdata : data.SeedsAlike order data') :
    Alike Ledger.SameButStart (Run.seedTables data l order) (Run.seedTables data' l' order) := by
  induction order generalizing l l' with
  | nil => exact .pure h
  | cons table rest ih =>
    obtain ⟨hrows, hrest⟩ := List.forall_mem_cons.1 hdata
    generalize hfound : data.rowsOf table = rows at hrows
    generalize hfound' : data'.rowsOf table = rows' at hrows
    -- The rows of the first table are given by the hypothesis; those of the others by induction.
    cases hrows with
    | nil =>
      -- Either document may have the table with no rows, or not at all; only the log shows it.
      have hpassed := ih h hrest
      rcases seedTables_of_rowsOf_eq_nil hfound l rest with heq | heq <;>
        rcases seedTables_of_rowsOf_eq_nil hfound' l' rest with heq' | heq' <;> rw [heq, heq']
      · exact hpassed
      · exact .logRight _ hpassed
      · exact .logLeft _ hpassed
      · exact .logLeft _ (.logRight _ hpassed)
    | cons first hothers =>
      rw [seedTables_of_rowsOf_ne_nil hfound (List.cons_ne_nil _ _),
        seedTables_of_rowsOf_ne_nil hfound' (List.cons_ne_nil _ _)]
      exact (seedTable_alike h table (.cons first hothers)).bind fun l l' h => ih h hrest

/-- What is said of the tables that are not in the order is between the document and the log. -/
theorem logUndeclared_alike (tables tables' : List String) :
    Alike Eq (Run.logUndeclared tables) (Run.logUndeclared tables') := by
  induction tables with
  | nil =>
    induction tables' with
    | nil => exact .pure rfl
    | cons table rest ih => exact .say_right _ ih
  | cons table rest ih => exact .say_left _ ih

theorem seed_alike {data data' : MockData} {order : List String} (h : l.SameButStart l')
    (hdata : data.SeedsAlike order data') :
    Alike Outcome.SameButTime (Run.seed data order l) (Run.seed data' order l') := by
  refine .say_left _ (.say_right _ ((logUndeclared_alike _ _).bind fun _ _ _ => ?_))
  exact (seedTables_alike h hdata).bind fun l l' h => finish_alike h

/-! ## Runs -/

variable {schema mockData mockData' : String} {data data' : MockData}

/-- Runs on documents that seed alike are alike as dialogues: both ask the same questions, and go on
alike after every answer. -/
theorem run_alike (engine : String) (hdata : MockData.parse mockData = .ok data)
    (hdata' : MockData.parse mockData' = .ok data')
    (hseeds : ∀ order, orderTables (Script.extractDependencies schema) = .ok order →
      data.SeedsAlike order data') :
    Alike Outcome.SameButTime (Run.run engine schema mockData)
      (Run.run engine schema mockData') := by
  have hstart : Alike Ledger.SameButStart Ledger.start Ledger.start :=
    .time fun now now' => .pure ⟨now', rfl⟩
  refine hstart.bind fun l l' h => .say_left _ (.say_right _ (.checkAlive fun answer => ?_))
  cases answer with
  | error message => exact abort_alike h _
  | ok =>
    refine (applySchema_alike h schema).bind fun l l' h => ?_
    rw [hdata, hdata']
    cases horder : orderTables (Script.extractDependencies schema) with
    | error tables => exact abort_alike h _
    | ok order => exact seed_alike h (hseeds order horder)

/-- The order of a document does not matter to seeding, nor do columns that the first row of a
table lacks, nor tables that have no rows or are not in the order: whatever the schema and the
executor, and whatever the two clocks show, the same statements are issued with the same
answers, and the outcomes differ in the execution time at most. -/
theorem run_ignores_document_order {σ : Type} (x : Executor σ) (now : σ → Nat) (s : σ)
    (hdata : MockData.parse mockData = .ok data) (hdata' : MockData.parse mockData' = .ok data')
    (hseeds : ∀ order, orderTables (Script.extractDependencies schema) = .ok order →
      data.SeedsAlike order data') :
    let t := x.run schema mockData s
    let t' := (x.withClock now).run schema mockData' s
    t'.issued = t.issued ∧ t.result.SameButTime t'.result ∧ t'.state = t.state := by
  obtain ⟨hresult, hissued, hstate⟩ :=
    (run_alike x.engine hdata hdata' hseeds).perform x now s
  exact ⟨hissued, hresult, hstate⟩

def agesSchema : String :=
  "CREATE TABLE users (id INT, age INT);
CREATE TABLE notes (id INT);
CREATE TABLE orders (by INT, FOREIGN KEY (by) REFERENCES users);"

def unpaddedMockData : String :=
  "\x7b\"users\":[\x7b\"id\":1,\"age\":7\x7d,\x7b\"id\":2,\"age\":8\x7d]," ++
    "\"orders\":[\x7b\"by\":2\x7d]\x7d"

/-- The same with the tables and the columns of the second user in another order, with a column
that no table has, a table without rows, and one that the schema does not know. -/
def paddedMockData : String :=
  "\x7b\"x\":[\x7b\x7d],\"orders\":[\x7b\"by\":2\x7d],\"notes\":[]," ++
    "\"users\":[\x7b\"id\":1,\"age\":7\x7d,\x7b\"age\":8,\"y\":0,\"id\":2\x7d]\x7d"

def unpaddedData : MockData :=
  [("users", [[("id", .number (.int 1)), ("age", .number (.int 7))],
    [("id", .number (.int 2)), ("age", .number (.int 8))]]),
    ("orders", [[("by", .number (.int 2))]])]

def paddedData : MockData :=
  [("x", [[]]), ("orders", [[("by", .number (.int 2))]]), ("notes", []),
    ("users", [[("id", .number (.int 1)), ("age", .number (.int 7))],
      [("age", .number (.int 8)), ("y", .number (.int 0)), ("id", .number (.int 2))]])]

theorem seedsAlike_padded : unpaddedData.SeedsAlike ["users", "notes", "orders"] paddedData := by
  have huser : Row.SameIn ["id", "age"]
      [("id", .number (.int 2)), ("age", .number (.int 8))]
      [("age", .number (.int 8)), ("y", .number (.int 0)), ("id", .number (.int 2))] := by
    simp [Row.SameIn, Assoc.find?]
  refine List.forall_mem_cons.2 ⟨.cons _ (.cons huser .nil), ?_⟩
  exact List.forall_mem_cons.2 ⟨.nil, List.forall_mem_singleton.2 (.cons _ .nil)⟩

/-- The clock of one run stands still, and that of the other is five nanoseconds ahead. One of the
inserts is rejected. -/
theorem run_ignores_document_order_padded :
    let x := (⟨[⟨"INSERT INTO orders", ⟨"no such user", "23503"⟩⟩], [], none⟩ :
      Database.Playbook).executor "postgres"
    let t := x.run agesSchema unpaddedMockData ()
    let t' := (x.withClock fun _ => 5).run agesSchema paddedMockData ()
    t'.issued = t.issued ∧ t.result.SameButTime t'.result := by
  intro x t t'
  have hdata : MockData.parse unpaddedMockData = .ok unpaddedData := by with_unfolding_all rfl
  have hdata' : MockData.parse paddedMockData = .ok paddedData := by with_unfolding_all rfl
  have hfacts : Script.extractDependencies agesSchema =
      [⟨"users", []⟩, ⟨"notes", []⟩, ⟨"orders", ["users"]⟩] := by decide +kernel
  have horder : orderTables (Script.extractDependencies agesSchema) =
      .ok ["users", "notes", "orders"] := by
    rw [hfacts]
    with_unfolding_all rfl
  -- There is one order only, so that what is asked of all orders is asked of this one.
  have hseeds : ∀ order, orderTables (Script.extractDependencies agesSchema) = .ok order →
      unpaddedData.SeedsAlike order paddedData := by
    intro order h
    rw [horder] at h
    cases h
    exact seedsAlike_padded
  obtain ⟨hissued, hresult, -⟩ :=
    run_ignores_document_order x (fun _ => 5) () hdata hdata' hseeds
  exact ⟨hissued, hresult⟩

end SchemaSeed
