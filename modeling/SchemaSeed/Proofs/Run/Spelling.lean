import SchemaSeed.Database.Playbook
import SchemaSeed.Proofs.Run.Fates
import SchemaSeed.Proofs.Script.Naming
import SchemaSeed.Proofs.Script.Statement

/-!
# Tables that are not spelled in lowercase

The order has every table in lowercase, and a table of the mock data must be spelled as the
order has it. So the rows that are given for a table under the spelling of its declaration are
inserted if that spelling is in lowercase, and only then (`run_seeds_lowercase_spelling`). Of
another spelling it is said that the table is not declared, and the run goes on to report valid
data (`run_leaves_out_capitalised_table`).
-/

namespace SchemaSeed

variable {table table' sql : String} {rows rows' : List Row}

/-! ## The table of an INSERT -/

/-- The header begins with the name of the table and a space. -/
theorem exists_insertHeader (table : String) (columns : List String) :
    ∃ rest, Sql.insertHeader table columns =
      "INSERT INTO ".toList ++ (table.toList ++ ' ' :: rest) := by
  have hopening : " (".toList = [' ', '('] := by decide
  unfold Sql.insertHeader
  generalize "INSERT INTO ".toList = start
  refine ⟨'(' :: (Sql.commaSeparated (columns.map String.toList) ++ ")\nVALUES\n".toList), ?_⟩
  rw [hopening]
  simp only [List.append_assoc, List.cons_append, List.nil_append]

/-- So does the whole statement, as its header comes first. -/
theorem exists_toList_insertStatement (h : Sql.insertStatement table rows = some sql) :
    ∃ rest, sql.toList = "INSERT INTO ".toList ++ (table.toList ++ ' ' :: rest) := by
  cases rows with
  | nil => cases h
  | cons first others =>
    obtain ⟨rest, hheader⟩ := exists_insertHeader table (Assoc.keys first)
    generalize "INSERT INTO ".toList = start at hheader ⊢
    rw [← Option.some.inj h, String.toList_ofList, hheader]
    simp only [List.append_assoc, List.cons_append]
    exact ⟨_, rfl⟩

/-- The text of an INSERT says which table it is for, as far as names without spaces go. With spaces
in it, a name could go on into the list of columns. -/
theorem eq_of_insertStatement_eq (h : Sql.insertStatement table rows = some sql)
    (h' : Sql.insertStatement table' rows' = some sql) (hspace : ' ' ∉ table.toList)
    (hspace' : ' ' ∉ table'.toList) : table = table' := by
  obtain ⟨rest, htext⟩ := exists_toList_insertStatement h
  obtain ⟨rest', htext'⟩ := exists_toList_insertStatement h'
  have hnames := List.append_cancel_left (htext.symm.trans htext')
  rw [← String.toList_inj, ← Text.takeWhile_ne_append hspace rest, hnames,
    Text.takeWhile_ne_append hspace' rest']

/-! ## Rows under the spelling of the declaration -/

/-- The rows are inserted into the table, however its name is spelled. -/
def Inserts (issued : List Issued) (table : String) (rows : List Row) : Prop :=
  ∃ i ∈ issued, ∃ spelling, Text.toLowercase spelling = Text.toLowercase table ∧
    Sql.insertStatement spelling rows = some i.sql

/-- The one fate that is told by such an event. Others have events of other kinds. -/
theorem Fate.eq_undeclared {fate : Fate} (h : fate.event = .mockTableSkipped table) :
    fate = .undeclared table := by
  cases fate with
  | undeclared _ => cases h; rfl
  | empty _ => cases h
  | answered _ insert =>
    obtain ⟨sql, answer⟩ := insert
    cases answer <;> cases h

section
variable {σ : Type} {schema : String} {data : MockData} {order : List String}
  {before after : List Event} {applied : List Issued} {fates : List Fate} {t : Trace σ Outcome}

/-- The order decides which fate a table with rows has: it is not declared, or its rows were issued.
-/
theorem Fated.of_rows (h : Fated schema data order before after applied fates t)
    (hrows : Assoc.find? data table = some rows) (hne : rows ≠ []) :
    (table ∉ order ∧ .undeclared table ∈ fates) ∨
      (table ∈ order ∧ ∃ insert, .answered table insert ∈ fates ∧
        Sql.insertStatement table rows = some insert.sql) := by
  have hkey := Assoc.mem_keys_of_find? hrows
  -- The table is a key of the document, and each of these has a fate.
  have hmem : table ∈ fates.map Fate.table := by
    rw [h.tables, List.mem_append, List.mem_filter, List.mem_filter]
    by_cases hin : table ∈ order
    · exact .inr ⟨hin, by simpa using hkey⟩
    · exact .inl ⟨hkey, by simpa using hin⟩
  obtain ⟨fate, hfate, rfl⟩ := List.mem_map.1 hmem
  have hfit := h.fits fate hfate
  cases fate with
  | undeclared table => exact .inl ⟨hfit, hfate⟩
  | empty table =>
    have hnone := hfit.2.symm.trans hrows
    exact absurd (Option.some.inj hnone).symm hne
  | answered table insert =>
    obtain ⟨hin, found, hfound, -, hsql⟩ := hfit
    cases hfound.symm.trans hrows
    exact .inr ⟨hin, insert, hfate, hsql⟩

/-- A table with rows is said not to be declared if the order does not know it, and by no other
event. -/
theorem Fated.skipped_iff (h : Fated schema data order before after applied fates t)
    (hrows : Assoc.find? data table = some rows) (hne : rows ≠ []) :
    .mockTableSkipped table ∈ t.events ↔ table ∉ order := by
  rw [h.events]
  constructor
  · intro hskipped
    rw [List.mem_append, List.mem_append, or_right_comm, ← List.mem_append] at hskipped
    rcases hskipped with hother | hfate
    · exact absurd ⟨.undeclared table, rfl⟩ (h.quiet _ hother)
    · obtain ⟨fate, hfate, hevent⟩ := List.mem_map.1 hfate
      cases Fate.eq_undeclared hevent
      exact h.fits _ hfate
  · intro hnot
    rcases h.of_rows hrows hne with ⟨-, hfate⟩ | ⟨hin, -⟩
    · exact List.mem_append_left _ (List.mem_append_right _ (List.mem_map_of_mem hfate))
    · exact absurd hin hnot

/-- An INSERT that was issued is one for a table of the order, with the rows that the document has
for it. The statements of the schema insert nothing. -/
theorem Fated.exists_rows (h : Fated schema data order before after applied fates t)
    {i : Issued} (hi : i ∈ t.issued) (hinsert : Sql.insertStatement table rows = some i.sql) :
    ∃ name found, name ∈ order ∧ Assoc.find? data name = some found ∧
      Sql.insertStatement name found = some i.sql := by
  rw [h.issued, List.mem_append] at hi
  rcases hi with hi | hi
  · -- A statement of the schema has no semicolon, and an INSERT ends with one.
    have hmem : i.sql ∈ Run.schemaStatements schema := h.statements ▸ List.mem_map_of_mem hi
    exact absurd hinsert (insertStatement_ne_of_mem_schemaStatements hmem table rows)
  · obtain ⟨fate, hfate, hsome⟩ := List.mem_filterMap.1 hi
    cases fate with
    | undeclared _ => cases hsome
    | empty _ => cases hsome
    | answered name insert =>
      cases hsome
      obtain ⟨hname, found, hfound, -, hsql⟩ := h.fits _ hfate
      exact ⟨name, found, hname, hfound, hsql⟩

/-- The rows of a table that the document spells in one way only are inserted if the order knows it
under that spelling. No other spelling can have led to the insert, since the document has none. -/
theorem Fated.inserts_iff (h : Fated schema data order before after applied fates t)
    (hspaces : ∀ name ∈ order, ' ' ∉ name.toList) (hspace : ' ' ∉ table.toList)
    (hrows : Assoc.find? data table = some rows) (hne : rows ≠ [])
    (honly : ∀ other ∈ Assoc.keys data,
      Text.toLowercase other = Text.toLowercase table → other = table) :
    Inserts t.issued table rows ↔ table ∈ order := by
  constructor
  -- An insert names its table up to the first space, so that it belongs to one table only.
  · rintro ⟨i, hi, spelling, hlower, hinsert⟩
    obtain ⟨name, found, hname, hfound, hsql⟩ := h.exists_rows hi hinsert
    have hspelling : ' ' ∉ spelling.toList := by
      rwa [← Script.space_mem_toLowercase, hlower, Script.space_mem_toLowercase]
    obtain rfl := eq_of_insertStatement_eq hinsert hsql hspelling (hspaces name hname)
    rwa [← honly spelling (Assoc.mem_keys_of_find? hfound) hlower]
  · intro hin
    rcases h.of_rows hrows hne with ⟨hnot, -⟩ | ⟨-, insert, hfate, hsql⟩
    · exact absurd hin hnot
    · refine ⟨insert, ?_, table, rfl, hsql⟩
      rw [h.issued]
      exact List.mem_append_right _ (List.mem_filterMap.2 ⟨_, hfate, rfl⟩)

end

/-- Where the mock data has rows for a table that the schema declares, under the spelling of the
declaration and under no other, a run that is completed has inserted the rows if the spelling is
in lowercase. If it is not, they are not inserted, and the table is said not to be declared. -/
theorem run_seeds_lowercase_spelling {σ : Type} (x : Executor σ)
    {schema mockData statement : String} {s : σ} {report : Report} {data : MockData}
    (hstatement : statement ∈ Run.schemaStatements schema)
    (hdeclares : Script.Declares statement.toList table)
    (hdata : MockData.parse mockData = .ok data)
    (hrows : Assoc.find? data table = some rows) (hne : rows ≠ [])
    (honly : ∀ other ∈ Assoc.keys data,
      Text.toLowercase other = Text.toLowercase table → other = table)
    (hcompleted : (x.run schema mockData s).result = .completed report) :
    let t := x.run schema mockData s
    (Inserts t.issued table rows ↔ Text.toLowercase table = table) ∧
      (.mockTableSkipped table ∈ t.events ↔ Text.toLowercase table ≠ table) := by
  obtain ⟨halive, -, ⟨order, horder⟩⟩ := (exists_completed_iff x).1 ⟨report, hcompleted⟩
  obtain ⟨before, after, applied, fates, h⟩ := run_fates x halive hdata horder
  -- To be in the order is to be spelled as in the facts.
  have hspelling : table ∈ order ↔ Text.toLowercase table = table := by
    rw [mem_order horder, hdeclares.mem_tables_iff hstatement]
  have hspaces : ∀ name ∈ order, ' ' ∉ name.toList := fun name hname =>
    Script.space_notMem_of_mem_tables ((mem_order horder).1 hname)
  rw [Ne, ← hspelling]
  exact ⟨h.inserts_iff hspaces hdeclares.space_notMem hrows hne honly, h.skipped_iff hrows hne⟩

def declarationOf (name : Script.Word) : Script.Declaration :=
  let nothing : Script.Blanks := ⟨[], List.all_eq_true.1 rfl⟩
  let space : Script.Gap := ⟨⟨[' '], List.all_eq_true.1 rfl⟩, by decide⟩
  let column : Script.Word := ⟨"id".toList, List.all_eq_true.1 (by decide +kernel), by decide⟩
  let type : Script.Word := ⟨"INT".toList, List.all_eq_true.1 (by decide +kernel), by decide⟩
  { before := nothing
    create := ⟨{ text := "CREATE".toList, spells := by decide }, space⟩
    modifier := none
    table := ⟨{ text := "TABLE".toList, spells := by decide }, space⟩
    guard := none
    name := ⟨none, ⟨name, false⟩⟩
    beforeItems := space.toBlanks
    afterOpening := nothing
    items := [⟨nothing, .column column space type, nothing⟩]
    after := nothing }

def obligingDatabase : Executor Unit := (⟨[], [], none⟩ : Database.Playbook).executor "postgres"

def lowercaseName : Script.Word :=
  ⟨"users".toList, List.all_eq_true.1 (by decide +kernel), by decide⟩

def lowercaseSchema : String := "CREATE TABLE users (id INT)"

def lowercaseMockData : String := "\x7b\"users\": [\x7b\"id\": 1\x7d]\x7d"

def capitalName : Script.Word :=
  ⟨"Users".toList, List.all_eq_true.1 (by decide +kernel), by decide⟩

def capitalSchema : String := "CREATE TABLE Users (id INT)"

def capitalMockData : String := "\x7b\"Users\": [\x7b\"id\": 1\x7d]\x7d"

def oneRow : List Row := [[("id", .number (.int 1))]]

/-- The name of the table is in lowercase, so its row is inserted. -/
theorem run_seeds_lowercase_spelling_users :
    let t := obligingDatabase.run lowercaseSchema lowercaseMockData ()
    (∃ report, t.result = .completed report) ∧ Inserts t.issued "users" oneRow := by
  have hstatements : Run.schemaStatements lowercaseSchema = [lowercaseSchema] := by decide +kernel
  have hdata : MockData.parse lowercaseMockData = .ok [("users", oneRow)] := by
    with_unfolding_all rfl
  have hfacts : Script.extractDependencies lowercaseSchema = [⟨"users", []⟩] := by decide +kernel
  have horder : orderTables (Script.extractDependencies lowercaseSchema) = .ok ["users"] := by
    rw [hfacts]
    with_unfolding_all rfl
  have hdeclares : Script.Declares lowercaseSchema.toList "users" :=
    Script.declares_of_statement_eq (declarationOf lowercaseName) (by decide +kernel)
  obtain ⟨report, hcompleted⟩ :=
    (exists_completed_iff obligingDatabase (s := ())).2 ⟨rfl, ⟨_, hdata⟩, _, horder⟩
  have hmem : lowercaseSchema ∈ Run.schemaStatements lowercaseSchema := by
    rw [hstatements]
    exact List.mem_singleton_self _
  have hseeds := run_seeds_lowercase_spelling obligingDatabase hmem hdeclares hdata rfl
    (List.cons_ne_nil _ _) (by decide) hcompleted
  exact ⟨⟨report, hcompleted⟩, hseeds.1.2 (by decide +kernel)⟩

/-- Rows that are given for a table as it was declared are left out because of a capital in its
name. The report has no error. -/
theorem run_leaves_out_capitalised_table :
    let t := obligingDatabase.run capitalSchema capitalMockData ()
    Run.schemaStatements capitalSchema = [capitalSchema] ∧
      Script.Declares capitalSchema.toList "Users" ∧
      MockData.parse capitalMockData = .ok [("Users", oneRow)] ∧
      (∃ report, t.result = .completed report ∧ report.dataValid = true ∧ report.errors = []) ∧
      t.issued.map (·.sql) = [capitalSchema] ∧ ¬Inserts t.issued "Users" oneRow ∧
      .mockTableSkipped "Users" ∈ t.events := by
  have hstatements : Run.schemaStatements capitalSchema = [capitalSchema] := by decide +kernel
  have hdata : MockData.parse capitalMockData = .ok [("Users", oneRow)] := by
    with_unfolding_all rfl
  -- The facts have the name in lowercase, while the document keeps it.
  have hfacts : Script.extractDependencies capitalSchema = [⟨"users", []⟩] := by decide +kernel
  have horder : orderTables (Script.extractDependencies capitalSchema) = .ok ["users"] := by
    rw [hfacts]
    with_unfolding_all rfl
  have hdeclares : Script.Declares capitalSchema.toList "Users" :=
    Script.declares_of_statement_eq (declarationOf capitalName) (by decide +kernel)
  have hrun := run_of_completes obligingDatabase (s := ()) rfl hdata horder
  rw [Run.applySchema, hstatements] at hrun
  have hissued : (obligingDatabase.run capitalSchema capitalMockData ()).issued.map (·.sql) =
      [capitalSchema] := by
    rw [hrun]
    rfl
  refine ⟨hstatements, hdeclares, hdata, ?_, hissued, ?_, ?_⟩
  · rw [hrun]
    exact ⟨_, rfl, rfl, rfl⟩
  -- All that was issued is the declaration, and that inserts nothing.
  · rintro ⟨i, hi, spelling, -, hinsert⟩
    have hsql : i.sql ∈ Run.schemaStatements capitalSchema := by
      rw [hstatements, ← hissued]
      exact List.mem_map_of_mem hi
    exact insertStatement_ne_of_mem_schemaStatements hsql spelling oneRow hinsert
  · rw [hrun]
    exact .tail _ (.tail _ (.head _))

end SchemaSeed
