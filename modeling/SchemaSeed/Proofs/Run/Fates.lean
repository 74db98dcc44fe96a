import SchemaSeed.Database.Playbook
import SchemaSeed.Proofs.Dependency.Order
import SchemaSeed.Proofs.MockData
import SchemaSeed.Proofs.Run.Account

/-!
# What becomes of the tables of the mock data

A table of the mock data is unknown to the order, or has no rows, or its rows are inserted and
the database answers. Each of these fates is told by one event. In a run that is completed
every table has exactly one fate (`run_accounts_for_tables`): the loop over the keys of the
document tells it of the tables that the order does not know, the loop over the order tells
it of the others (`seedTables_fates`), and no other part of the run tells any
(`applyStatements_tells_nothing`).
-/

namespace SchemaSeed

/-! ## Fates -/

/-- What becomes of a table of the mock data in a run that goes on to the end. -/
inductive Fate where
  /-- The order does not know the table. -/
  | undeclared (table : String)
  /-- The table has no rows. -/
  | empty (table : String)
  /-- The rows were inserted, or rejected. -/
  | answered (table : String) (insert : Issued)

namespace Fate

def table : Fate → String
  | undeclared table => table
  | empty table => table
  | answered table _ => table

def event : Fate → Event
  | undeclared table => .mockTableSkipped table
  | empty table => .tableSkipped table
  | answered table insert =>
    match insert.answer with
    | .ok rows => .tableSeeded table rows
    | .error message => .runError false (SeedError.insertExecution table message).message

def insert? : Fate → Option Issued
  | answered _ insert => some insert
  | _ => none

/-- The fate of a table is the one that the document and the order have for it. -/
def Fits (data : MockData) (order : List String) : Fate → Prop
  | undeclared table => table ∉ order
  | empty table => table ∈ order ∧ Assoc.find? data table = some []
  | answered table insert => table ∈ order ∧ ∃ rows, Assoc.find? data table = some rows ∧
      rows ≠ [] ∧ Sql.insertStatement table rows = some insert.sql

end Fate

def Event.TellsFate (e : Event) : Prop := ∃ fate : Fate, fate.event = e

/-- The four kinds of events that tell a fate. A rejected insert is told by the text of its error.
-/
theorem Event.tellsFate_iff {e : Event} :
    e.TellsFate ↔ (∃ table, e = .mockTableSkipped table) ∨ (∃ table, e = .tableSkipped table) ∨
      (∃ table rows, e = .tableSeeded table rows) ∨
      ∃ table message, e = .runError false (SeedError.insertExecution table message).message := by
  -- Each kind of fate has its event, and the event has the fate's table.
  constructor
  · rintro ⟨fate, rfl⟩
    cases fate with
    | undeclared table => exact .inl ⟨table, rfl⟩
    | empty table => exact .inr (.inl ⟨table, rfl⟩)
    | answered table insert =>
      obtain ⟨sql, answer⟩ := insert
      cases answer with
      | ok rows => exact .inr (.inr (.inl ⟨table, rows, rfl⟩))
      | error message => exact .inr (.inr (.inr ⟨table, message, rfl⟩))
  · rintro (⟨table, rfl⟩ | ⟨table, rfl⟩ | ⟨table, rows, rfl⟩ | ⟨table, message, rfl⟩)
    · exact ⟨.undeclared table, rfl⟩
    · exact ⟨.empty table, rfl⟩
    · exact ⟨.answered table ⟨"", .ok rows⟩, rfl⟩
    · exact ⟨.answered table ⟨"", .error message⟩, rfl⟩

/-- The text of an error says whether a statement of the schema was rejected or an insert: the two
begin with different words. -/
theorem schemaStatement_message_ne (index : Nat) (message table rejection : String) :
    (SeedError.schemaStatement index message).message ≠
      (SeedError.insertExecution table rejection).message := by
  intro h
  change "schema statement " ++ toString index ++ " failed: " ++ message =
    "data test for table " ++ table ++ " failed: " ++ rejection at h
  have hhead := congrArg (fun text : String => text.toList.head?) h
  simp [String.toList_append] at hhead

/-- So a rejected statement of the schema is not taken for the fate of a table, whatever the
database says of it. -/
theorem not_tellsFate_schemaStatement (fatal : Bool) (index : Nat) (message : String) :
    ¬(Event.runError fatal (SeedError.schemaStatement index message).message).TellsFate := by
  rw [Event.tellsFate_iff]
  -- An event of another kind differs at once; the two kinds of errors differ in their texts.
  rintro (⟨_, h⟩ | ⟨_, h⟩ | ⟨_, _, h⟩ | ⟨table, rejection, h⟩)
  · exact Event.noConfusion h
  · exact Event.noConfusion h
  · exact Event.noConfusion h
  · exact schemaStatement_message_ne index message table rejection (Event.runError.inj h).2

variable {σ : Type} (x : Executor σ)

/-! ## The statements of the schema -/

/-- Nothing is told of any table while the schema is applied. By induction on the statements. -/
theorem applyStatements_tells_nothing (index : Nat) (l : Ledger) (statements : List String)
    (s : σ) :
    ∀ e ∈ (x.perform (Run.applyStatements index l statements) s).events, ¬e.TellsFate := by
  induction statements generalizing index l s with
  | nil => exact fun e he => nomatch he
  | cons statement rest ih =>
    rw [Run.applyStatements, Executor.perform_ask_bind]
    cases (x.execute statement s).1 with
    | ok n => exact ih (index + 1) l.countStatement _
    -- A rejected statement leaves two events, neither of them about a table.
    | error message =>
      have hrest := ih (index + 1)
        { l with report := l.report.record (.schemaStatement index message) }
        (x.execute statement s).2
      have hfailed : ¬(Event.schemaStatementFailed index).TellsFate := by
        simp [Event.tellsFate_iff]
      simp only [Executor.perform_say_bind, Executor.perform_record_bind]
      simp only [Executor.perform_bind, Executor.perform_pure, List.append_nil,
        List.forall_mem_cons]
      exact ⟨hfailed, not_tellsFate_schemaStatement _ index message, hrest⟩

/-! ## The tables of the order -/

/-- What the loop over `tables` has told when it is through: one fate for each table that the
document has, one event for each fate, and the statement if there was one. -/
structure Told (data : MockData) (order tables : List String) (fates : List Fate)
    (t : Trace σ Ledger) : Prop where
  tables : fates.map Fate.table = tables.filter (· ∈ Assoc.keys data)
  fits : ∀ fate ∈ fates, fate.Fits data order
  events : t.events = fates.map Fate.event
  issued : t.issued = fates.filterMap Fate.insert?

variable {data : MockData} {order tables : List String} {fates : List Fate} {t : Trace σ Ledger}

/-- A table that is not in the document has no fate, and no event tells of it. -/
theorem Told.skip (h : Told data order tables fates t) {table : String}
    (htable : Assoc.find? data table = none) : Told data order (table :: tables) fates t where
  tables := by
    have hkey : table ∉ Assoc.keys data := by
      rw [← Assoc.isSome_find?, htable]
      exact Bool.false_ne_true
    rw [h.tables, List.filter_cons_of_neg (by simpa using hkey)]
  fits := h.fits
  events := h.events
  issued := h.issued

/-- One that is there gets its fate in its turn. This is the step of the loop for all three kinds of
fates. -/
theorem Told.cons (h : Told data order tables fates t) (fate : Fate)
    (hkey : fate.table ∈ Assoc.keys data) (hfits : fate.Fits data order) :
    Told data order (fate.table :: tables) (fate :: fates)
      ⟨t.result, t.state, fate.event :: t.events, fate.insert?.toList ++ t.issued⟩ where
  tables := by
    rw [List.map_cons, h.tables, List.filter_cons_of_pos (by simpa using hkey)]
  fits := List.forall_mem_cons.2 ⟨hfits, h.fits⟩
  events := by rw [List.map_cons, h.events]
  issued := by
    rw [List.filterMap_cons, h.issued]
    cases fate.insert? <;> rfl

/-- The loop over the order tells the fate of every table that it finds in the document. By
induction on the tables, with the cases of the loop. -/
theorem seedTables_fates (l : Ledger) (htables : ∀ table ∈ tables, table ∈ order) (s : σ) :
    ∃ fates, Told data order tables fates (x.perform (Run.seedTables data l tables) s) := by
  induction tables generalizing l s with
  | nil => exact ⟨[], rfl, fun _ h => (nomatch h), rfl, rfl⟩
  | cons table rest ih =>
    obtain ⟨hin, hrest⟩ := List.forall_mem_cons.1 htables
    rw [Run.seedTables]
    cases hfind : Assoc.find? data table with
    | none =>
      obtain ⟨fates, htold⟩ := ih l hrest s
      exact ⟨fates, htold.skip hfind⟩
    | some rows =>
      have hkey := Assoc.mem_keys_of_find? hfind
      cases rows with
      | nil =>
        obtain ⟨fates, htold⟩ := ih l hrest s
        exact ⟨_, htold.cons (.empty table) hkey ⟨hin, hfind⟩⟩
      | cons row rows =>
        obtain ⟨sql, hsql⟩ := insertStatement_cons table row rows
        -- Whatever the answer is, it is the fate of a table with rows.
        have hfits : ∀ answer, (Fate.answered table ⟨sql, answer⟩).Fits data order :=
          fun _ => ⟨hin, _, hfind, List.cons_ne_nil _ _, hsql⟩
        simp only [Run.seedTable, hsql, bind_assoc, Executor.perform_ask_bind]
        cases (x.execute sql s).1 with
        | ok n =>
          obtain ⟨fates, htold⟩ := ih (l.countTable n) hrest (x.execute sql s).2
          exact ⟨_, htold.cons (.answered table ⟨sql, .ok n⟩) hkey (hfits _)⟩
        | error message =>
          obtain ⟨fates, htold⟩ := ih
            { l with report := l.report.record (.insertExecution table message) } hrest
            (x.execute sql s).2
          exact ⟨_, htold.cons (.answered table ⟨sql, .error message⟩) hkey (hfits _)⟩

/-! ## All tables -/

/-- Of the keys of a document, those that the order does not know and those that it knows are all,
each once. -/
theorem perm_keys (hdata : (Assoc.keys data).Nodup) (horder : order.Nodup) :
    ((Assoc.keys data).filter (· ∉ order) ++ order.filter (· ∈ Assoc.keys data)).Perm
      (Assoc.keys data) := by
  refine (List.perm_ext_iff_of_nodup ?_ hdata).2 fun table => ?_
  · refine (hdata.filter _).append (horder.filter _) fun table hleft hright => ?_
    have hnot : table ∉ order := of_decide_eq_true (List.mem_filter.1 hleft).2
    exact hnot (List.mem_filter.1 hright).1
  · simp only [List.mem_append, List.mem_filter, decide_eq_true_eq]
    constructor
    · rintro (⟨hkey, -⟩ | ⟨-, hkey⟩)
      · exact hkey
      · exact hkey
    · intro hkey
      by_cases hin : table ∈ order
      · exact .inr ⟨hin, hkey⟩
      · exact .inl ⟨hkey, hin⟩

theorem undeclaredTables_eq (data : MockData) (order : List String) :
    Run.undeclaredTables data order = (Assoc.keys data).filter (· ∉ order) :=
  List.filter_congr fun table _ => by simp

/-- The end of a run tells nothing of a single table. What became of it was said before. -/
theorem finish_tells_nothing (l : Ledger) (s : σ) :
    ∀ e ∈ (x.perform l.finish s).events, ¬e.TellsFate := by
  intro e he
  rw [List.mem_singleton.1 he]
  simp [Event.tellsFate_iff]

/-- What seeding the tables has told when it is through: the tables that the order does not know
come before the others. Each part is given for the fates of the unknown tables first, and then for
those of the loop. -/
theorem seed_fates (data : MockData) (order : List String) (l : Ledger) (s : σ) :
    let t := x.perform (Run.seed data order l) s
    ∃ (fates : List Fate) (after : List Event),
      t.events = .tableOrderResolved order :: (fates.map Fate.event ++ after) ∧
      (∀ e ∈ after, ¬e.TellsFate) ∧
      fates.map Fate.table = (Assoc.keys data).filter (· ∉ order) ++
        order.filter (· ∈ Assoc.keys data) ∧
      (∀ fate ∈ fates, fate.Fits data order) ∧ t.issued = fates.filterMap Fate.insert? := by
  obtain ⟨known, htold⟩ : ∃ known,
      Told data order order known (x.perform (Run.seedTables data l order) s) :=
    seedTables_fates x l (fun _ h => h) s
  rw [perform_seed]
  generalize x.perform (Run.seedTables data l order) s = t at htold ⊢
  have hend := finish_tells_nothing x t.result t.state
  have hissued := (finish_spec x t.result t.state).2.1
  dsimp only
  generalize x.perform t.result.finish t.state = u at hend hissued ⊢
  -- The tables that the order does not know, with the fate that they all have.
  let unknown := ((Assoc.keys data).filter (· ∉ order)).map Fate.undeclared
  have htables : unknown.map Fate.table = (Assoc.keys data).filter (· ∉ order) := by
    rw [List.map_map]
    exact List.map_id _
  have hevents : unknown.map Fate.event = (Run.undeclaredTables data order).map .mockTableSkipped := by
    rw [undeclaredTables_eq, List.map_map]
    rfl
  have hnone : unknown.filterMap Fate.insert? = [] := by
    rw [List.filterMap_map]
    exact List.filterMap_eq_nil_iff.2 fun _ _ => rfl
  have hfits : ∀ fate ∈ unknown, fate.Fits data order := by
    intro fate hfate
    obtain ⟨table, htable, rfl⟩ := List.mem_map.1 hfate
    have hnot : table ∉ order := of_decide_eq_true (List.mem_filter.1 htable).2
    exact hnot
  -- In each part the unknown tables come first, as their events do.
  refine ⟨unknown ++ known, u.events, ?_, hend, ?_, ?_, ?_⟩
  · rw [List.map_append, hevents, ← htold.events, List.append_assoc]
  · rw [List.map_append, htables, htold.tables]
  · exact List.forall_mem_append.2 ⟨hfits, htold.fits⟩
  · rw [List.filterMap_append, hnone, ← htold.issued, hissued, List.append_nil, List.nil_append]

/-- What a run has told and issued when it is through: the events between `before` and `after`
tell the fates, and no others do; `applied` are the statements of the schema. -/
structure Fated (schema : String) (data : MockData) (order : List String)
    (before after : List Event) (applied : List Issued) (fates : List Fate)
    (t : Trace σ Outcome) : Prop where
  events : t.events = before ++ fates.map Fate.event ++ after
  quiet : ∀ e ∈ before ++ after, ¬e.TellsFate
  tables : fates.map Fate.table = (Assoc.keys data).filter (· ∉ order) ++
    order.filter (· ∈ Assoc.keys data)
  fits : ∀ fate ∈ fates, fate.Fits data order
  statements : applied.map (·.sql) = Run.schemaStatements schema
  issued : t.issued = applied ++ fates.filterMap Fate.insert?

/-- A run that nothing aborts tells the fates of the tables of the mock data, and nothing else of
any table. The events of the schema come before, and the one that ends the run after them. -/
theorem run_fates {schema mockData : String} {s : σ} (halive : (x.ping s).1 = .ok ())
    (hdata : MockData.parse mockData = .ok data)
    (horder : orderTables (Script.extractDependencies schema) = .ok order) :
    ∃ before after applied fates,
      Fated schema data order before after applied fates (x.run schema mockData s) := by
  have happlied := (applySchema_spec x (x.now s) schema (x.ping s).2).issued
  -- Before the order is known, no event tells of a table.
  have hquiet : ∀ e ∈ (x.perform (Run.applySchema schema ⟨x.now s, .blank, 0, 0, 0⟩)
      (x.ping s).2).events, ¬e.TellsFate := by
    rw [Run.applySchema, Executor.perform_bind]
    simp only [Executor.perform_pure, List.append_nil]
    exact applyStatements_tells_nothing x 1 _ _ _
  rw [run_of_completes x halive hdata horder]
  generalize x.perform (Run.applySchema schema _) (x.ping s).2 = t at happlied hquiet ⊢
  dsimp only
  obtain ⟨fates, after, hevents, hend, htables, hfits, hissued⟩ :=
    seed_fates x data order t.result t.state
  have hstarted : ¬(Event.runStarted x.engine).TellsFate := by simp [Event.tellsFate_iff]
  have hresolved : ¬(Event.tableOrderResolved order).TellsFate := by simp [Event.tellsFate_iff]
  refine ⟨.runStarted x.engine :: t.events ++ [.tableOrderResolved order], after, t.issued, fates,
    { events := ?_, quiet := ?_, tables := htables, fits := hfits, statements := happlied,
      issued := by rw [hissued] }⟩
  · simp only [hevents, List.cons_append, List.append_assoc, List.nil_append]
  · simp only [List.forall_mem_append, List.forall_mem_cons]
    exact ⟨⟨⟨hstarted, hquiet⟩, hresolved, List.forall_mem_nil _⟩, hend⟩

/-- In a run that is completed, every table of the mock data has one fate, and one event tells
of it: the events for the tables that the order does not know, as the document has them, and
then those for the tables that it knows, as they are ordered. -/
theorem run_accounts_for_tables {schema mockData : String} {s : σ} {report : Report}
    (hcompleted : (x.run schema mockData s).result = .completed report) :
    let t := x.run schema mockData s
    ∃ (data : MockData) (order : List String), MockData.parse mockData = .ok data ∧
      orderTables (Script.extractDependencies schema) = .ok order ∧
      ∃ (before : List Event) (fates : List Fate) (after : List Event),
        t.events = before ++ fates.map Fate.event ++ after ∧
        (∀ e ∈ before ++ after, ¬e.TellsFate) ∧
        (fates.map Fate.table).Perm (Assoc.keys data) ∧
        (fates.map Fate.table).Nodup ∧
        fates.map Fate.table = (Assoc.keys data).filter (· ∉ order) ++
          order.filter (· ∈ Assoc.keys data) ∧
        (∀ fate ∈ fates, fate.Fits data order) ∧
        ∃ applied : List Issued, applied.map (·.sql) = Run.schemaStatements schema ∧
          t.issued = applied ++ fates.filterMap Fate.insert? := by
  obtain ⟨halive, ⟨data, hdata⟩, ⟨order, horder⟩⟩ :=
    (exists_completed_iff x).1 ⟨report, hcompleted⟩
  obtain ⟨before, after, applied, fates, h⟩ := run_fates x halive hdata horder
  -- A table of the document is in the order or not, and each one comes once.
  have hperm : (fates.map Fate.table).Perm (Assoc.keys data) := by
    rw [h.tables]
    exact perm_keys (nodup_keys_parse hdata) (nodup_order horder)
  exact ⟨data, order, hdata, horder, before, fates, after, h.events, h.quiet, hperm,
    hperm.nodup_iff.2 (nodup_keys_parse hdata), h.tables, h.fits, applied, h.statements, h.issued⟩

/-- One table of each fate, and one that is declared but has no rows given. -/
def mixedSchema : String :=
  "CREATE TABLE orders (user_id INT, FOREIGN KEY (user_id) REFERENCES users);
CREATE TABLE users (id INT);
CREATE TABLE notes (id INT);
CREATE TABLE logs (id INT);"

def mixedMockData : String :=
  "\x7b\"orders\": [\x7b\"user_id\": 2\x7d], \"ghosts\": [\x7b\"id\": 1\x7d], " ++
    "\"notes\": [], \"users\": [\x7b\"id\": 1\x7d]\x7d"

def mixedData : MockData :=
  [("orders", [[("user_id", .number (.int 2))]]), ("ghosts", [[("id", .number (.int 1))]]),
    ("notes", []), ("users", [[("id", .number (.int 1))]])]

/-- A database that knows no user whom an order may refer to. -/
def strictDatabase : Executor Unit :=
  ({ rejections := [⟨"INSERT INTO orders", ⟨"no such user", "23503"⟩⟩], counts := [],
     dead := none } : Database.Playbook).executor "postgres"

/-- The table that is not declared comes first, though the document has it in the middle. -/
theorem run_accounts_for_tables_mixed :
    ∃ report, (strictDatabase.run mixedSchema mixedMockData ()).result = .completed report ∧
      ∃ (before : List Event) (fates : List Fate) (after : List Event),
        (strictDatabase.run mixedSchema mixedMockData ()).events =
          before ++ fates.map Fate.event ++ after ∧
        fates.map Fate.table = ["ghosts", "users", "notes", "orders"] := by
  have hdata : MockData.parse mixedMockData = .ok mixedData := by with_unfolding_all rfl
  have hfacts : Script.extractDependencies mixedSchema =
      [⟨"orders", ["users"]⟩, ⟨"users", []⟩, ⟨"notes", []⟩, ⟨"logs", []⟩] := by decide +kernel
  have horder : orderTables (Script.extractDependencies mixedSchema) =
      .ok ["users", "notes", "logs", "orders"] := by
    rw [hfacts]
    with_unfolding_all rfl
  obtain ⟨report, hcompleted⟩ :=
    (exists_completed_iff strictDatabase (s := ())).2 ⟨rfl, ⟨_, hdata⟩, _, horder⟩
  refine ⟨report, hcompleted, ?_⟩
  obtain ⟨data, order, hdata', horder', before, fates, after, hevents, -, -, -, htables, -⟩ :=
    run_accounts_for_tables strictDatabase hcompleted
  -- The document and the order of the theorem are those that were computed.
  rw [hdata] at hdata'
  rw [horder] at horder'
  cases hdata'
  cases horder'
  exact ⟨before, fates, after, hevents, by rw [htables]; decide⟩

end SchemaSeed
