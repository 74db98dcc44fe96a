import SchemaSeed.Proofs.Dependency.Order
import SchemaSeed.Proofs.MockData
import SchemaSeed.Proofs.Run.Account
import SchemaSeed.Proofs.Script.Statement

/-!
# A database that enforces foreign keys

`EnforcesForeignKeys` says how a database answers that takes every statement of the schema,
and the rows of a table only if the rows that they refer to are there. Such a database
rejects nothing of a run: the order puts the rows of each table behind those that it refers
to (`mem_before_of_refers`), so by induction along the inserts each of them finds its
references (`EnforcesForeignKeys.accepted`).
-/

namespace SchemaSeed

open Facts DependencyGraph

def ReferencesFilled (facts : List TableDependency) (data : MockData) (before : List Issued)
    (table : String) : Prop :=
  ∀ referenced rows, Refers facts table referenced →
    Assoc.find? data referenced = some rows → rows ≠ [] →
    ∃ i ∈ before, Sql.insertStatement referenced rows = some i.sql ∧ i.accepted

/-- How a database answered to the statements that were issued to it: it accepted every statement of
the schema, and the mock rows of a table exactly when it had accepted those of all tables that the
table refers to. Nothing is asked of its answers to other statements, and nothing of how it comes to
them. -/
structure EnforcesForeignKeys (schema : String) (data : MockData) (issued : List Issued) :
    Prop where
  statements : ∀ i ∈ issued, i.sql ∈ Run.schemaStatements schema → i.accepted
  inserts : ∀ before i after, issued = before ++ i :: after →
    ∀ table rows, Assoc.find? data table = some rows →
      Sql.insertStatement table rows = some i.sql →
      (i.accepted ↔ ReferencesFilled (Script.extractDependencies schema) data before table)

variable {schema mockData : String} {data : MockData} {order : List String}

/-- In an order that begins with what is referred to, a table with rows comes after those tables
with rows that it refers to. -/
theorem mem_before_of_refers {facts : List TableDependency} {table referenced : String}
    {rows rows' : List Row} {before after : List (String × List Row)}
    (h : ReferencesFirst facts order)
    (hsplit : tablesWithRows data order = before ++ (table, rows) :: after)
    (hr : Refers facts table referenced) (hfind : Assoc.find? data referenced = some rows')
    (hne : rows' ≠ []) : (referenced, rows') ∈ before := by
  obtain ⟨front, back, horder, rfl⟩ := exists_split_of_tablesWithRows hsplit
  exact mem_tablesWithRows.2 ⟨h front table back horder referenced hr, hfind, hne⟩

/-- Inserts that follow such an order are all accepted: when it is the turn of one, the rows that it
refers to have been accepted. -/
theorem EnforcesForeignKeys.accepted {applied inserted : List Issued}
    (h : EnforcesForeignKeys schema data (applied ++ inserted))
    (hfirst : ReferencesFirst (Script.extractDependencies schema) order)
    (hplan : inserted.map (fun i => some i.sql) =
      (tablesWithRows data order).map fun (table, rows) => Sql.insertStatement table rows) :
    ∀ i ∈ inserted, i.accepted := by
  -- The induction is on the inserts that are done; those before an insert are its references.
  suffices hprefix : ∀ done rest, inserted = done ++ rest → ∀ i ∈ done, i.accepted from
    hprefix inserted [] (List.append_nil _).symm
  intro done
  induction done using List.reverseRecOn with
  | nil => exact fun _ _ i hi => absurd hi List.not_mem_nil
  | append_singleton done i ih =>
    intro rest hsplit
    rw [List.append_assoc, List.singleton_append] at hsplit
    have hdone := ih (i :: rest) hsplit
    rw [List.forall_mem_append, List.forall_mem_singleton]
    refine ⟨hdone, ?_⟩
    rw [hsplit, List.map_append, List.map_cons, List.append_eq_map_iff] at hplan
    -- The insert belongs to a table of the plan, with `before` in front of it.
    obtain ⟨before, back, htables, hbefore, hback⟩ := hplan
    obtain ⟨⟨table, rows⟩, after, rfl, hsql, -⟩ := List.map_eq_cons_iff.1 hback
    have hmem : (table, rows) ∈ tablesWithRows data order := by simp [htables]
    obtain ⟨-, hfind, -⟩ := mem_tablesWithRows.1 hmem
    refine (h.inserts (applied ++ done) i rest (by simp [hsplit]) table rows hfind hsql).2 ?_
    intro referenced rows' hr hfind' hne
    -- What it refers to is in front of it, so it was issued and accepted.
    have hearlier := mem_before_of_refers hfirst htables hr hfind' hne
    have hinsert : Sql.insertStatement referenced rows' ∈ done.map fun i => some i.sql := by
      rw [← hbefore]
      exact List.mem_map_of_mem (f := fun (table, rows) => Sql.insertStatement table rows)
        hearlier
    obtain ⟨j, hj, hjsql⟩ := List.mem_map.1 hinsert
    exact ⟨j, List.mem_append_right _ hj, hjsql.symm, hdone j hj⟩

/-! ## A database that does so -/

/-- A statement that inserts mock rows finds the rows that they refer to among the statements
`accepted` before. -/
def Permitted (schema : String) (data : MockData) (accepted : List String) (sql : String) :
    Prop :=
  ∀ table rows, Assoc.find? data table = some rows → Sql.insertStatement table rows = some sql →
    ∀ referenced rows', Refers (Script.extractDependencies schema) table referenced →
      Assoc.find? data referenced = some rows' → rows' ≠ [] →
      ∃ earlier ∈ accepted, Sql.insertStatement referenced rows' = some earlier

open Classical in
/-- A database that remembers what it accepted and accepts what is permitted. It shows that the
hypothesis of the result below can be met. -/
noncomputable def referential (schema : String) (data : MockData) : Executor (List String) where
  engine := "sqlite"
  now _ := 0
  ping accepted := (.ok (), accepted)
  execute sql accepted :=
    if Permitted schema data accepted sql then (.ok 1, accepted ++ [sql])
    else (.error "FOREIGN KEY constraint failed", accepted)

def acceptedTexts (issued : List Issued) : List String :=
  (issued.filter Issued.accepted).map (·.sql)

@[simp] theorem acceptedTexts_nil : acceptedTexts [] = [] := rfl

@[simp] theorem acceptedTexts_ok (sql : String) (n : UInt64) (issued : List Issued) :
    acceptedTexts (⟨sql, .ok n⟩ :: issued) = sql :: acceptedTexts issued := rfl

@[simp] theorem acceptedTexts_error (sql message : String) (issued : List Issued) :
    acceptedTexts (⟨sql, .error message⟩ :: issued) = acceptedTexts issued := rfl

theorem acceptedTexts_append (front back : List Issued) :
    acceptedTexts (front ++ back) = acceptedTexts front ++ acceptedTexts back := by
  simp [acceptedTexts]

/-- It accepts what is permitted, and keeps its text, by which it judges what comes later. -/
theorem execute_referential (schema : String) (data : MockData) (sql : String)
    (accepted : List String) :
    let answered := (referential schema data).execute sql accepted
    let i : Issued := ⟨sql, answered.1⟩
    (i.accepted ↔ Permitted schema data accepted sql) ∧
      answered.2 = accepted ++ acceptedTexts [i] := by
  by_cases hp : Permitted schema data accepted sql
  · simp [referential, hp]
  · simp [referential, hp]

/-- What it accepts depends on what it has accepted since the beginning. By induction on the
dialogue, from its first question on. -/
theorem accepted_iff_permitted {α : Type} (d : Dialogue α) {accepted : List String}
    {before after : List Issued} {i : Issued}
    (h : ((referential schema data).perform d accepted).issued = before ++ i :: after) :
    i.accepted ↔ Permitted schema data (accepted ++ acceptedTexts before) i.sql := by
  induction d generalizing accepted before with
  | done a => simp [Executor.perform] at h
  | log e k ih => exact ih h
  | clock k ih => exact ih 0 h
  | ping k ih => exact ih (.ok ()) h
  | execute sql k ih =>
    obtain ⟨haccepted, hstate⟩ := execute_referential schema data sql accepted
    rw [Executor.perform] at h
    -- The statement in question is the first one, or it was issued later.
    cases before with
    | nil =>
      obtain ⟨rfl, -⟩ := List.cons.inj h
      simpa using haccepted
    | cons first rest =>
      obtain ⟨rfl, hrest⟩ := List.cons.inj h
      rw [ih _ hrest, hstate, List.append_assoc, ← acceptedTexts_append, List.singleton_append]

/-- It enforces foreign keys in every dialogue, if no two tables of the mock data are filled by the
same statement. Otherwise the text would not tell whose rows they are. -/
theorem enforces_referential {α : Type} (d : Dialogue α)
    (hdistinct : ∀ table rows table' rows' sql, Assoc.find? data table = some rows →
      Assoc.find? data table' = some rows' → Sql.insertStatement table rows = some sql →
      Sql.insertStatement table' rows' = some sql → table = table') :
    EnforcesForeignKeys schema data ((referential schema data).perform d []).issued where
  statements i hi hsql := by
    obtain ⟨before, after, hsplit⟩ := List.append_of_mem hi
    rw [accepted_iff_permitted d hsplit]
    intro table rows _ hinsert
    exact absurd hinsert (insertStatement_ne_of_mem_schemaStatements hsql table rows)
  inserts before i after hsplit table rows hfind hsql := by
    rw [accepted_iff_permitted d hsplit, List.nil_append]
    -- What the executor knows of earlier inserts are their texts, from which the tables are told by
    -- `hdistinct`.
    constructor
    · intro hp referenced rows' hr hfind' hne
      obtain ⟨earlier, hmem, hinsert⟩ := hp table rows hfind hsql referenced rows' hr hfind' hne
      obtain ⟨j, hj, rfl⟩ := List.mem_map.1 hmem
      exact ⟨j, (List.mem_filter.1 hj).1, hinsert, (List.mem_filter.1 hj).2⟩
    · intro hfilled table' rows' hfind' hsql' referenced rows'' hr hfind'' hne
      cases hdistinct table rows table' rows' i.sql hfind hfind' hsql hsql'
      obtain ⟨j, hj, hinsert, haccepted⟩ := hfilled referenced rows'' hr hfind'' hne
      exact ⟨j.sql, List.mem_map_of_mem (List.mem_filter.2 ⟨hj, haccepted⟩), hinsert⟩

/-! ## Runs on such a database -/

variable {σ : Type}

/-- A database that enforces foreign keys accepts all that a run issues, if there is an
order: the report has no error, and the tables of the order that have mock rows are seeded,
each by one insert. If there is none, the run aborts and no mock row is inserted. -/
theorem run_respects_foreign_keys (x : Executor σ) (s : σ)
    (hdata : MockData.parse mockData = .ok data) (halive : (x.ping s).1 = .ok ()) :
    let t := x.run schema mockData s
    (∀ order, orderTables (Script.extractDependencies schema) = .ok order →
      EnforcesForeignKeys schema data t.issued →
      ∃ (report : Report) (seeded : List (String × List Row)), t.result = .completed report ∧
        report.errors = [] ∧ report.schemaValid = true ∧ report.dataValid = true ∧
        seeded.Perm (data.filter fun (table, rows) => order.contains table && !rows.isEmpty) ∧
        (seeded.map (·.1)).Nodup ∧
        report.metrics.get? "tables_seeded" = some (toString seeded.length) ∧
        t.issued.map (fun i => some i.sql) = (Run.schemaStatements schema).map some ++
          seeded.map (fun (table, rows) => Sql.insertStatement table rows) ∧
        ∀ i ∈ t.issued, i.accepted) ∧
    ∀ tables, orderTables (Script.extractDependencies schema) = .error tables →
      (∃ report, t.result = .aborted report (.cycle tables)) ∧
      ∀ i ∈ t.issued, ∀ table rows, Sql.insertStatement table rows ≠ some i.sql := by
  obtain ⟨applied, inserted, h⟩ := run_account x schema mockData s
  have hstatements := h.appliedSql
  have hinserts := h.insertedSql
  have hissued := h.issuedSql
  rw [halive] at h hstatements hinserts hissued
  simp only [Run.schemaPlan, Run.seedingPlan, hdata] at hstatements hinserts hissued
  constructor
  -- There is an order: no insert comes before what it refers to.
  · intro order horder hdb
    simp only [horder] at hinserts hissued
    rw [h.issued] at hdb hissued ⊢
    have happlied : ∀ i ∈ applied, i.accepted := by
      intro i hi
      apply hdb.statements i (List.mem_append_left _ hi)
      rw [← hstatements]
      exact List.mem_map_of_mem hi
    have hinserted : ∀ i ∈ inserted, i.accepted :=
      hdb.accepted (referencesFirst_order horder) hinserts
    obtain ⟨report, hresult, herrors, hschema, hvalid, hcount⟩ :=
      h.completed (by simp [Run.abortReason, hdata, horder]) happlied hinserted
    simp only [Run.seedingPlan, hdata, horder] at hcount
    refine ⟨report, tablesWithRows data order, hresult, herrors, hschema, hvalid,
      tablesWithRows_perm (nodup_keys_parse hdata) (nodup_order horder),
      nodup_tablesWithRows (nodup_order horder), hcount, hissued,
      List.forall_mem_append.2 ⟨happlied, hinserted⟩⟩
  -- There is none: the statements of the schema are all that is issued, and none of them inserts.
  · intro tables horder
    simp only [horder, List.map_nil, List.map_eq_nil_iff] at hinserts
    subst hinserts
    have hending := h.closed.ending
    simp only [Run.abortReason, hdata, horder] at hending
    refine ⟨fatalError?_eq_some.1 hending, ?_⟩
    intro i hi table rows
    rw [h.issued, List.append_nil] at hi
    apply insertStatement_ne_of_mem_schemaStatements
    rw [← hstatements]
    exact List.mem_map_of_mem hi

/-- A shop whose schema and whose mock data both name the orders before the users that they refer
to. -/
def shopSchema : String :=
  "CREATE TABLE orders (user_id INT, FOREIGN KEY (user_id) REFERENCES users);
CREATE TABLE users (id INT);"

def shopMockData : String :=
  "\x7b\"orders\": [\x7b\"user_id\": 1\x7d], \"users\": [\x7b\"id\": 1\x7d]\x7d"

def shop : MockData :=
  [("orders", [[("user_id", .number (.int 1))]]), ("users", [[("id", .number (.int 1))]])]

/-- The users are inserted first, although they come last in both texts. -/
theorem run_respects_foreign_keys_shop :
    ∃ report, ((referential shopSchema shop).run shopSchema shopMockData []).result =
        .completed report ∧
      report.errors = [] ∧ report.metrics.get? "tables_seeded" = some "2" := by
  have hdata : MockData.parse shopMockData = .ok shop := by with_unfolding_all rfl
  have hfacts : Script.extractDependencies shopSchema =
      [⟨"orders", ["users"]⟩, ⟨"users", []⟩] := by decide +kernel
  have horder : orderTables (Script.extractDependencies shopSchema) = .ok ["users", "orders"] := by
    rw [hfacts]
    with_unfolding_all rfl
  -- The two inserts differ in the name of the table.
  have hdistinct : ∀ table rows table' rows' sql, Assoc.find? shop table = some rows →
      Assoc.find? shop table' = some rows' → Sql.insertStatement table rows = some sql →
      Sql.insertStatement table' rows' = some sql → table = table' := by
    intro table rows table' rows' sql hfind hfind' hsql hsql'
    have hkeys : (Assoc.keys shop).Nodup := by decide
    rw [Assoc.find?_eq_some_iff hkeys] at hfind hfind'
    simp only [shop, List.mem_cons, List.not_mem_nil, or_false, Prod.mk.injEq] at hfind hfind'
    obtain ⟨rfl, rfl⟩ | ⟨rfl, rfl⟩ := hfind <;> obtain ⟨rfl, rfl⟩ | ⟨rfl, rfl⟩ := hfind'
    · rfl
    · exact absurd (hsql.trans hsql'.symm) (by decide)
    · exact absurd (hsql.trans hsql'.symm) (by decide)
    · rfl
  obtain ⟨report, seeded, hresult, herrors, -, -, hperm, -, hcount, -⟩ :=
    (run_respects_foreign_keys (referential shopSchema shop) [] hdata rfl).1 _ horder
      (enforces_referential _ hdistinct)
  have hlength : seeded.length = 2 := hperm.length_eq.trans (by decide)
  exact ⟨report, hresult, herrors, by rw [hcount, hlength]; rfl⟩

end SchemaSeed
