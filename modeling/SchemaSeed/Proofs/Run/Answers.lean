import SchemaSeed.Proofs.Run.Perform
import SchemaSeed.Proofs.Run.Plan

/-!
# Statements and their answers

The two loops of a run, the one over the statements of the schema and the one over the tables
in their order, against an executor that answers as it likes. Neither loop stops or changes
its course when a statement is rejected: what is issued is known beforehand, and what is
recorded can be read off the answers (`applyStatements_spec`, `seedTables_spec`).
-/

namespace SchemaSeed

/-! ## What an answer means -/

namespace Issued

def rejection? (i : Issued) : Option String :=
  match i.answer with
  | .ok _ => none
  | .error message => some message

def affected (i : Issued) : Nat :=
  match i.answer with
  | .ok n => n.toNat
  | .error _ => 0

@[simp] theorem accepted_ok (sql : String) (n : UInt64) : (Issued.mk sql (.ok n)).accepted := rfl

@[simp] theorem accepted_error (sql message : String) :
    (Issued.mk sql (.error message)).accepted = false := rfl

end Issued

/-- The errors of the rejected ones among the statements of a schema, which are numbered from
`index`. -/
def schemaErrors (index : Nat) (issued : List Issued) : List SeedError :=
  (issued.zipIdx index).filterMap fun (i, n) => i.rejection?.map (.schemaStatement n)

/-- The errors of the rejected ones among the inserts into `tables`. -/
def insertErrors (tables : List String) (issued : List Issued) : List SeedError :=
  (tables.zip issued).filterMap fun (table, i) => i.rejection?.map (.insertExecution table)

@[simp] theorem schemaErrors_nil (index : Nat) : schemaErrors index [] = [] := rfl

@[simp] theorem schemaErrors_ok (index : Nat) (sql : String) (n : UInt64)
    (issued : List Issued) :
    schemaErrors index (⟨sql, .ok n⟩ :: issued) = schemaErrors (index + 1) issued := rfl

@[simp] theorem schemaErrors_error (index : Nat) (sql message : String)
    (issued : List Issued) :
    schemaErrors index (⟨sql, .error message⟩ :: issued) =
      .schemaStatement index message :: schemaErrors (index + 1) issued := rfl

@[simp] theorem insertErrors_nil : insertErrors [] [] = [] := rfl

@[simp] theorem insertErrors_ok (table sql : String) (n : UInt64) (tables : List String)
    (issued : List Issued) :
    insertErrors (table :: tables) (⟨sql, .ok n⟩ :: issued) = insertErrors tables issued := rfl

@[simp] theorem insertErrors_error (table sql message : String) (tables : List String)
    (issued : List Issued) :
    insertErrors (table :: tables) (⟨sql, .error message⟩ :: issued) =
      .insertExecution table message :: insertErrors tables issued := rfl

/-- No error is recorded for a schema exactly when every statement of it was accepted. -/
theorem schemaErrors_eq_nil {index : Nat} {issued : List Issued} :
    schemaErrors index issued = [] ↔ ∀ i ∈ issued, i.accepted := by
  induction issued generalizing index with
  | nil => simp
  | cons i rest ih =>
    obtain ⟨sql, answer⟩ := i
    cases answer with
    | ok n => simp [ih]
    | error message => simp

/-- Where all inserts were accepted, none of them has an error. The tables may be any, since they
only name the errors. -/
theorem insertErrors_eq_nil {issued : List Issued} (h : ∀ i ∈ issued, i.accepted)
    (tables : List String) : insertErrors tables issued = [] := by
  induction tables generalizing issued with
  | nil => rfl
  | cons table rest ih =>
    cases issued with
    | nil => rfl
    | cons i issued =>
      obtain ⟨hfirst, hrest⟩ := List.forall_mem_cons.1 h
      obtain ⟨sql, answer⟩ := i
      cases answer with
      | ok n => exact (insertErrors_ok table sql n rest issued).trans (ih hrest)
      | error message => cases hfirst

def acceptedCount (issued : List Issued) : Nat := issued.countP Issued.accepted

/-- The rows that the statements affected together, as an unbounded number. The ledger keeps it in
64 bits. -/
def affectedRows : List Issued → Nat
  | [] => 0
  | i :: rest => i.affected + affectedRows rest

@[simp] theorem acceptedCount_nil : acceptedCount [] = 0 := rfl

@[simp] theorem acceptedCount_ok (sql : String) (n : UInt64) (issued : List Issued) :
    acceptedCount (⟨sql, .ok n⟩ :: issued) = 1 + acceptedCount issued := by
  simp [acceptedCount, List.countP_cons, Nat.add_comm]

@[simp] theorem acceptedCount_error (sql message : String) (issued : List Issued) :
    acceptedCount (⟨sql, .error message⟩ :: issued) = acceptedCount issued := by
  simp [acceptedCount]

theorem acceptedCount_append (front back : List Issued) :
    acceptedCount (front ++ back) = acceptedCount front + acceptedCount back :=
  List.countP_append

theorem acceptedCount_eq_length {issued : List Issued} (h : ∀ i ∈ issued, i.accepted) :
    acceptedCount issued = issued.length :=
  List.countP_eq_length.2 h

@[simp] theorem affectedRows_nil : affectedRows [] = 0 := rfl

@[simp] theorem affectedRows_ok (sql : String) (n : UInt64) (issued : List Issued) :
    affectedRows (⟨sql, .ok n⟩ :: issued) = n.toNat + affectedRows issued := rfl

@[simp] theorem affectedRows_error (sql message : String) (issued : List Issued) :
    affectedRows (⟨sql, .error message⟩ :: issued) = affectedRows issued :=
  Nat.zero_add _

/-! ## Entries of a ledger -/

/-- The ledger with more errors and higher counts. All that a run does to its ledger between the
beginning and the end is of this form. -/
def Ledger.enter (l : Ledger) (errors : List SeedError) (tables rows statements : Nat) :
    Ledger :=
  { l with
    report := { l.report with errors := l.report.errors ++ errors.map SeedError.message }
    tablesSeeded := l.tablesSeeded + tables
    rowsInserted := l.rowsInserted + .ofNat rows
    statementsExecuted := l.statementsExecuted + statements }

namespace Ledger

theorem enter_nothing (l : Ledger) : l.enter [] 0 0 0 = l := by
  simp [enter]

/-- Entries add up, so that what two parts of a run enter is one entry. -/
theorem enter_enter (l : Ledger) (errors errors' : List SeedError)
    (tables tables' rows rows' statements statements' : Nat) :
    (l.enter errors tables rows statements).enter errors' tables' rows' statements' =
      l.enter (errors ++ errors') (tables + tables') (rows + rows') (statements + statements') := by
  simp [enter, UInt64.add_assoc, Nat.add_assoc]

/-- The three ways in which the program changes its ledger are entries. -/
theorem record_eq_enter (l : Ledger) (e : SeedError) :
    { l with report := l.report.record e } = l.enter [e] 0 0 0 := by
  simp [enter, Report.record]

theorem countStatement_eq_enter (l : Ledger) : l.countStatement = l.enter [] 0 0 1 := by
  simp [enter, countStatement]

theorem countTable_eq_enter (l : Ledger) (n : UInt64) :
    l.countTable n = l.enter [] 1 n.toNat 1 := by
  simp [enter, countTable]

end Ledger

/-! ## The statements of the schema -/

section
variable {σ : Type} (x : Executor σ)

/-- What the loop over the statements of a schema has done when it is through: it issued all of
them, and entered the errors and the number of the accepted ones. -/
structure Applied (index : Nat) (l : Ledger) (statements : List String)
    (t : Trace σ (Bool × Ledger)) : Prop where
  issued : t.issued.map (·.sql) = statements
  valid : t.result.1 = t.issued.all Issued.accepted
  ledger : t.result.2 = l.enter (schemaErrors index t.issued) 0 0 (acceptedCount t.issued)
  logged : loggedErrors t.events =
    (schemaErrors index t.issued).map fun e => (false, e.message)

variable {index : Nat} {l : Ledger} {statements : List String} {t : Trace σ (Bool × Ledger)}

/-- The loop over the statements goes on after one that was accepted, and counts it. -/
theorem Applied.accept {statement : String} {n : UInt64}
    (h : Applied (index + 1) l.countStatement statements t) :
    Applied index l (statement :: statements)
      ⟨t.result, t.state, t.events, ⟨statement, .ok n⟩ :: t.issued⟩ where
  issued := by simp [h.issued]
  valid := by simp [h.valid]
  ledger := by simp [h.ledger, Ledger.countStatement_eq_enter, Ledger.enter_enter]
  logged := by simp [h.logged]

/-- It goes on after one that was rejected, too, and keeps the error with the number of the
statement. -/
theorem Applied.reject (statement : String) {message : String}
    (h : Applied (index + 1)
      { l with report := l.report.record (.schemaStatement index message) } statements t) :
    Applied index l (statement :: statements)
      ⟨(false, t.result.2), t.state,
        .schemaStatementFailed index ::
          .runError false (SeedError.schemaStatement index message).message :: t.events,
        ⟨statement, .error message⟩ :: t.issued⟩ where
  issued := by simp [h.issued]
  valid := by simp
  ledger := by simp [h.ledger, Ledger.record_eq_enter, Ledger.enter_enter]
  logged := by simp [h.logged]

/-- Each statement is issued once and in its turn, whatever the answers are. By induction on the
statements, with one lemma for an accepted statement and one for a rejected one. -/
theorem applyStatements_spec (index : Nat) (l : Ledger) (statements : List String) (s : σ) :
    Applied index l statements (x.perform (Run.applyStatements index l statements) s) := by
  induction statements generalizing index l s with
  | nil => exact ⟨rfl, rfl, l.enter_nothing.symm, rfl⟩
  | cons statement rest ih =>
    rw [Run.applyStatements, Executor.perform_ask_bind]
    cases hanswer : (x.execute statement s).1 with
    | ok n => exact (ih (index + 1) l.countStatement _).accept
    | error message =>
      have hrest := (ih (index + 1)
        { l with report := l.report.record (.schemaStatement index message) }
        (x.execute statement s).2).reject statement
      simpa [SeedError.isFatal] using hrest

end

/-! ## The tables in their order -/

/-- Rows are written as a statement unless there are none. -/
theorem insertStatement_cons (table : String) (row : Row) (rows : List Row) :
    ∃ sql, Sql.insertStatement table (row :: rows) = some sql := ⟨_, rfl⟩

section
variable {σ : Type} (x : Executor σ)

/-- What the loop over the tables has done when it is through; `plan` are the tables with rows that
it came across. Each of them had one insert, and the ledger has what came of it. -/
structure Seeded (l : Ledger) (plan : List (String × List Row)) (t : Trace σ Ledger) :
    Prop where
  issued : t.issued.map (fun i => some i.sql) =
    plan.map fun (table, rows) => Sql.insertStatement table rows
  ledger : t.result = l.enter (insertErrors (plan.map (·.1)) t.issued)
    (acceptedCount t.issued) (affectedRows t.issued) (acceptedCount t.issued)
  logged : loggedErrors t.events =
    (insertErrors (plan.map (·.1)) t.issued).map fun e => (false, e.message)

variable {l : Ledger} {plan : List (String × List Row)} {t : Trace σ Ledger} {table sql : String}
  {rows : List Row}

/-- The loop over the tables goes on after one without rows, for which nothing is issued. -/
theorem Seeded.skip (h : Seeded l plan t) :
    Seeded l plan ⟨t.result, t.state, .tableSkipped table :: t.events, t.issued⟩ where
  issued := h.issued
  ledger := h.ledger
  logged := by simp [h.logged]

/-- An insert that was accepted counts a table and its rows. -/
theorem Seeded.accept {n : UInt64} (h : Seeded (l.countTable n) plan t)
    (hsql : Sql.insertStatement table rows = some sql) :
    Seeded l ((table, rows) :: plan)
      ⟨t.result, t.state, .tableSeeded table n :: t.events, ⟨sql, .ok n⟩ :: t.issued⟩ where
  issued := by simp [h.issued, hsql]
  ledger := by simp [h.ledger, Ledger.countTable_eq_enter, Ledger.enter_enter]
  logged := by simp [h.logged]

/-- Of an insert that was rejected, the error is kept with the name of the table. -/
theorem Seeded.reject {message : String}
    (h : Seeded { l with report := l.report.record (.insertExecution table message) } plan t)
    (hsql : Sql.insertStatement table rows = some sql) :
    Seeded l ((table, rows) :: plan)
      ⟨t.result, t.state,
        .runError false (SeedError.insertExecution table message).message :: t.events,
        ⟨sql, .error message⟩ :: t.issued⟩ where
  issued := by simp [h.issued, hsql]
  ledger := by simp [h.ledger, Ledger.record_eq_enter, Ledger.enter_enter]
  logged := by simp [h.logged]

/-- The rows of each table are inserted once and in the order of the tables, whatever the answers
are. By induction on the order, with a case for each of the three things that can come of a table.
-/
theorem seedTables_spec (data : MockData) (l : Ledger) (order : List String) (s : σ) :
    Seeded l (tablesWithRows data order) (x.perform (Run.seedTables data l order) s) := by
  induction order generalizing l s with
  | nil => exact ⟨rfl, l.enter_nothing.symm, rfl⟩
  | cons table rest ih =>
    rw [Run.seedTables, tablesWithRows, List.filterMap_cons, withRows?]
    cases hfind : Assoc.find? data table with
    | none => exact ih l s
    | some rows =>
      cases rows with
      | nil => exact (ih l s).skip
      | cons row rows =>
        obtain ⟨sql, hsql⟩ := insertStatement_cons table row rows
        simp only [Run.seedTable, hsql, bind_assoc, Executor.perform_ask_bind]
        cases hanswer : (x.execute sql s).1 with
        | ok n => exact (ih (l.countTable n) _).accept hsql
        | error message => exact (ih _ _).reject hsql

end

end SchemaSeed
