import Mathlib.Data.List.Nodup
import SchemaSeed.Proofs.Assoc
import SchemaSeed.Run.Seeding

/-!
# What a run is to do

Whether a run aborts, and which statements it issues, is known before the database has
answered to any of them. The rows of the mock data are inserted in the order of the tables:
`tablesWithRows` picks those of the order that have rows.
-/

namespace SchemaSeed

/-! ## The tables with rows -/

def withRows? (data : MockData) (table : String) : Option (String × List Row) :=
  match Assoc.find? data table with
  | some (row :: rows) => some (table, row :: rows)
  | _ => none

/-- The tables of the order for which the document has rows, with these rows: what a run is to
insert, in the order in which it is to be inserted. -/
def tablesWithRows (data : MockData) (order : List String) : List (String × List Row) :=
  order.filterMap (withRows? data)

variable {data : MockData} {order : List String}

/-- What comes out is the table itself with all its rows, and there are some. -/
theorem withRows?_eq_some {table : String} {entry : String × List Row} :
    withRows? data table = some entry ↔
      table = entry.1 ∧ Assoc.find? data table = some entry.2 ∧ entry.2 ≠ [] := by
  obtain ⟨name, rows⟩ := entry
  unfold withRows?
  split
  · next row rest hfind =>
    simp only [hfind, Option.some.injEq, Prod.mk.injEq, and_congr_right_iff]
    rintro -
    constructor
    · rintro rfl
      exact ⟨rfl, List.cons_ne_nil _ _⟩
    · exact And.left
  · next hnone =>
    simp only [reduceCtorEq, false_iff]
    rintro ⟨-, hfind, hne⟩
    obtain ⟨row, rest, rfl⟩ := List.exists_cons_of_ne_nil hne
    exact hnone row rest hfind

/-- A table is seeded if the order knows it and the document has rows for it. -/
theorem mem_tablesWithRows {table : String} {rows : List Row} :
    (table, rows) ∈ tablesWithRows data order ↔
      table ∈ order ∧ Assoc.find? data table = some rows ∧ rows ≠ [] := by
  simp only [tablesWithRows, List.mem_filterMap, withRows?_eq_some]
  constructor
  · rintro ⟨t, ht, rfl, hrows⟩
    exact ⟨ht, hrows⟩
  · rintro ⟨ht, hrows⟩
    exact ⟨table, ht, rfl, hrows⟩

/-- A table with rows is seeded once, as it stands once in the order. -/
theorem nodup_tablesWithRows (h : order.Nodup) :
    ((tablesWithRows data order).map (·.1)).Nodup := by
  have hsub : ((tablesWithRows data order).map (·.1)).Sublist order := by
    induction order with
    | nil => exact .slnil
    | cons table rest ih =>
      have hrest := ih h.of_cons
      rw [tablesWithRows, List.filterMap_cons]
      split
      · exact hrest.cons _
      · next entry hentry =>
        obtain ⟨hname, -⟩ := withRows?_eq_some.1 hentry
        rw [List.map_cons, ← hname]
        exact hrest.cons_cons table
  exact h.sublist hsub

/-- What stands before a table with rows comes from what stands before it in the order, so what the
order says of places holds of inserts. -/
theorem exists_split_of_tablesWithRows {before after : List (String × List Row)}
    {table : String} {rows : List Row}
    (h : tablesWithRows data order = before ++ (table, rows) :: after) :
    ∃ front back, order = front ++ table :: back ∧ tablesWithRows data front = before := by
  obtain ⟨front, back, rfl, hfront, hback⟩ := List.filterMap_eq_append_iff.1 h
  obtain ⟨empty, t, back, rfl, hempty, hentry, -⟩ := List.filterMap_eq_cons_iff.1 hback
  obtain ⟨rfl, -⟩ := withRows?_eq_some.1 hentry
  refine ⟨front ++ empty, back, (List.append_assoc _ _ _).symm, ?_⟩
  rw [tablesWithRows, List.filterMap_append, hfront, List.filterMap_eq_nil_iff.2 hempty,
    List.append_nil]

/-- The tables with rows are those entries of the document whose tables are in the order. Only the
sequence is that of the order. -/
theorem tablesWithRows_perm (hdata : (Assoc.keys data).Nodup) (horder : order.Nodup) :
    (tablesWithRows data order).Perm
      (data.filter fun (table, rows) => order.contains table && !rows.isEmpty) := by
  refine (List.perm_ext_iff_of_nodup (nodup_tablesWithRows horder).of_map
    (hdata.of_map.filter _)).2 ?_
  rintro ⟨table, rows⟩
  rw [mem_tablesWithRows, List.mem_filter, Assoc.find?_eq_some_iff hdata]
  simp [and_left_comm]

/-! ## Plans -/

namespace Run

/-- What ends a run before its time. A dead database comes first, then mock data that is no
document, and then tables without an order. The checks are made in this sequence, so that the first
reason counts. -/
def abortReason (alive : Except String Unit) (schema mockData : String) : Option SeedError :=
  match alive, MockData.parse mockData, orderTables (Script.extractDependencies schema) with
  | .error message, _, _ => some (.connection ("ping failed: " ++ message))
  | .ok (), .error message, _ => some (.mockDataParse message)
  | .ok (), .ok _, .error tables => some (.cycle tables)
  | .ok (), .ok _, .ok _ => none

section
variable {alive : Except String Unit} {schema mockData : String}

theorem abortReason_eq_connection {text : String} :
    abortReason alive schema mockData = some (.connection text) ↔
      ∃ message, alive = .error message ∧ text = "ping failed: " ++ message := by
  unfold abortReason
  split <;> simp [eq_comm]

theorem abortReason_eq_mockDataParse {message : String} :
    abortReason alive schema mockData = some (.mockDataParse message) ↔
      alive = .ok () ∧ MockData.parse mockData = .error message := by
  unfold abortReason
  split <;> simp [*]

/-- Tables are reported only where nothing else is wrong: the database is alive, and the mock data
can be read. -/
theorem abortReason_eq_cycle {tables : List String} :
    abortReason alive schema mockData = some (.cycle tables) ↔
      alive = .ok () ∧ (∃ data, MockData.parse mockData = .ok data) ∧
        orderTables (Script.extractDependencies schema) = .error tables := by
  unfold abortReason
  split <;> simp [*]

/-- A run goes on to the end if the database is alive, the mock data is a document, and its tables
have an order. -/
theorem abortReason_eq_none :
    abortReason alive schema mockData = none ↔
      alive = .ok () ∧ (∃ data, MockData.parse mockData = .ok data) ∧
        ∃ order, orderTables (Script.extractDependencies schema) = .ok order := by
  unfold abortReason
  split <;> simp [*]

end

def schemaPlan (alive : Except String Unit) (schema : String) : List String :=
  match alive with
  | .error _ => []
  | .ok () => schemaStatements schema

def seedingPlan (alive : Except String Unit) (schema mockData : String) :
    List (String × List Row) :=
  match alive, MockData.parse mockData, orderTables (Script.extractDependencies schema) with
  | .ok (), .ok data, .ok order => tablesWithRows data order
  | _, _, _ => []

end Run

end SchemaSeed
