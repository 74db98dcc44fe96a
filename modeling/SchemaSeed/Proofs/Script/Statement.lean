import SchemaSeed.Proofs.Text.Split
import SchemaSeed.Run.Seeding

/-!
# Statements and semicolons

A script is cut at its semicolons, so none is left in a statement of a schema
(`semicolon_notMem_of_mem_schemaStatements`). An INSERT ends with one. Hence what a run
issues for a schema is never mistaken for what it issues for mock data
(`insertStatement_ne_of_mem_schemaStatements`).
-/

namespace SchemaSeed

namespace Text

/-- Dropping blanks at the ends adds nothing to a text. -/
theorem mem_of_mem_trim {c : Char} {cs : List Char} (h : c ∈ trim cs) : c ∈ cs := by
  have hstart : c ∈ trimStart cs := by
    apply List.mem_reverse.1
    exact (List.dropWhile_sublist _).subset (List.mem_reverse.1 h)
  exact (List.dropWhile_sublist _).subset hstart

end Text

namespace Script

/-- Statements are what stands between semicolons, so none is left in them. -/
theorem semicolon_notMem_of_mem_statements {cs statement : List Char}
    (h : statement ∈ statements cs) : ';' ∉ statement := by
  obtain ⟨piece, hpiece, rfl⟩ := List.mem_map.1 (List.mem_filter.1 h).1
  intro hmem
  exact Text.separator_notMem_of_mem_split hpiece (Text.mem_of_mem_trim hmem)

end Script

theorem semicolon_notMem_of_mem_schemaStatements {schema sql : String}
    (h : sql ∈ Run.schemaStatements schema) : ';' ∉ sql.toList := by
  obtain ⟨statement, hstatement, rfl⟩ := List.mem_map.1 h
  rw [String.toList_ofList]
  exact Script.semicolon_notMem_of_mem_statements hstatement

/-- An INSERT ends with a semicolon, however many rows it has. -/
theorem semicolon_mem_of_insertStatement {table sql : String} {rows : List Row}
    (h : Sql.insertStatement table rows = some sql) : ';' ∈ sql.toList := by
  cases rows with
  | nil => cases h
  | cons row rows =>
    cases h
    rw [String.toList_ofList]
    apply List.mem_append_right
    exact List.mem_singleton_self _

/-- No statement of a schema is an INSERT that was built from rows, not even one that was written in
the schema: the semicolon at its end tells them apart. -/
theorem insertStatement_ne_of_mem_schemaStatements {schema sql : String}
    (h : sql ∈ Run.schemaStatements schema) (table : String) (rows : List Row) :
    Sql.insertStatement table rows ≠ some sql := by
  intro hinsert
  exact semicolon_notMem_of_mem_schemaStatements h (semicolon_mem_of_insertStatement hinsert)

end SchemaSeed
