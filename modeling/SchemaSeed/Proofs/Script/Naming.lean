import Mathlib.Data.List.TakeWhile
import SchemaSeed.Proofs.Dependency.Facts
import SchemaSeed.Proofs.Script.Recognition
import SchemaSeed.Proofs.Text.Lowercase
import SchemaSeed.Run.Seeding

/-!
# The names of tables

The recognisers take a name for a word (`isWord_of_declaredName`, `isWord_of_mem_references`),
and the facts of a script have it in lowercase. So every table of the facts is a word in
lowercase (`toLowercase_of_mem_tables`, `space_notMem_of_mem_tables`), and a table that a
statement declares is among them under its lowercase form only (`Declares.mem_tables_iff`).
-/

namespace SchemaSeed

namespace Script

open Text (isWord)

variable {cs name rest : List Char} {c : Char}

/-! ## Names are words -/

/-- A simple name is a run of word characters, with or without quotes around it. -/
theorem isWord_of_simpleName (h : simpleName cs = some (name, rest)) (hc : c ∈ name) :
    isWord c = true := by
  unfold simpleName at h
  dsimp only at h
  split at h
  · cases h
  · cases h
    exact List.mem_takeWhile_imp hc

/-- A qualifier is not part of the name that is found. -/
theorem isWord_of_tableName (h : tableName cs = some (name, rest)) (hc : c ∈ name) :
    isWord c = true := by
  rcases Option.or_eq_some_iff.1 h with h | ⟨-, h⟩
  · obtain ⟨mid, -, hname⟩ := Option.bind_eq_some_iff.1 h
    exact isWord_of_simpleName hname hc
  · exact isWord_of_simpleName h hc

theorem isWord_of_tableClause (h : tableClause cs = some name) (hc : c ∈ name) :
    isWord c = true := by
  obtain ⟨mid, -, hmap⟩ := Option.bind_eq_some_iff.1 h
  obtain ⟨⟨found, after⟩, hfound, rfl⟩ := Option.map_eq_some_iff.1 hmap
  rcases Option.or_eq_some_iff.1 hfound with h | ⟨-, h⟩
  · obtain ⟨mid, -, hname⟩ := Option.bind_eq_some_iff.1 h
    exact isWord_of_tableName hname hc
  · exact isWord_of_tableName h hc

/-- So all names in the facts are words, those of the declared tables first. -/
theorem isWord_of_declaredName (h : declaredName cs = some name) (hc : c ∈ name) :
    isWord c = true := by
  obtain ⟨rest, -, h⟩ := Option.bind_eq_some_iff.1 h
  rcases Option.or_eq_some_iff.1 h with h | ⟨-, h⟩
  · obtain ⟨mid, -, hclause⟩ := Option.bind_eq_some_iff.1 h
    exact isWord_of_tableClause hclause hc
  · exact isWord_of_tableClause h hc

/-- And so are the names that foreign keys refer to. By induction on the text that is searched. -/
theorem isWord_of_mem_references {inWord : Bool} (h : name ∈ references inWord cs) (hc : c ∈ name) :
    isWord c = true := by
  fun_induction references inWord cs with
  | case1 => cases h
  | case2 inWord d rest found after hkey ih =>
    rcases List.mem_cons.1 h with rfl | h
    · split at hkey
      · cases hkey
      · obtain ⟨mid, -, hname⟩ := Option.bind_eq_some_iff.1 hkey
        exact isWord_of_tableName hname hc
    · exact ih h
  | case3 inWord d rest hkey ih => exact ih h

/-! ## Tables of facts -/

/-- Names are put in lowercase as whole texts, since a sigma depends on the letters around it. -/
theorem lowered_eq (name : List Char) :
    statementFact.lowered name = Text.toLowercase (String.ofList name) := by
  rw [statementFact.lowered, Text.toLowercase, String.toList_ofList]

/-- The facts are those of the statements that a run issues. Both are made from the same split of
the same stripped text. -/
theorem extractDependencies_eq (script : String) :
    extractDependencies script =
      (Run.schemaStatements script).filterMap (statementFact ∘ String.toList) := by
  have hround : (statementFact ∘ String.toList) ∘ String.ofList = statementFact :=
    funext fun cs => congrArg statementFact String.toList_ofList
  rw [Run.schemaStatements, splitStatements, stripComments, String.toList_ofList,
    List.filterMap_map, hround, extractDependencies]

/-- A table of the facts was written as some word, which the fact holds in lowercase. -/
theorem exists_word_of_mem_tables {script table : String}
    (h : table ∈ Facts.tables (extractDependencies script)) :
    ∃ word : List Char, (∀ c ∈ word, isWord c = true) ∧
      table = Text.toLowercase (String.ofList word) := by
  obtain ⟨fact, hfact, htable⟩ := Facts.mem_tables.1 h
  obtain ⟨statement, -, hstatement⟩ := List.mem_filterMap.1 hfact
  obtain ⟨name, hname, rfl⟩ := Option.map_eq_some_iff.1 hstatement
  rcases htable with rfl | hreferenced
  · exact ⟨name, fun _ => isWord_of_declaredName hname, lowered_eq name⟩
  · obtain ⟨referenced, hmem, rfl⟩ := List.mem_map.1 hreferenced
    exact ⟨referenced, fun _ => isWord_of_mem_references hmem, lowered_eq referenced⟩

/-- Tables of the facts are in lowercase, and lowercase does not change any more. -/
theorem toLowercase_of_mem_tables {script table : String}
    (h : table ∈ Facts.tables (extractDependencies script)) : Text.toLowercase table = table := by
  obtain ⟨word, -, rfl⟩ := exists_word_of_mem_tables h
  exact Text.toLowercase_toLowercase _

/-- No other character becomes a space in lowercase, and a space stays one. -/
theorem space_mem_toLowercase {table : String} :
    ' ' ∈ (Text.toLowercase table).toList ↔ ' ' ∈ table.toList := by
  rw [Text.toLowercase, String.toList_ofList, Text.mem_lowercase_iff (by decide)]

/-- So a key of the document with a space in it names no table. -/
theorem space_notMem_of_mem_tables {script table : String}
    (h : table ∈ Facts.tables (extractDependencies script)) : ' ' ∉ table.toList := by
  obtain ⟨word, hword, rfl⟩ := exists_word_of_mem_tables h
  rw [space_mem_toLowercase, String.toList_ofList]
  intro hspace
  exact absurd (hword _ hspace) (by decide)

/-! ## Declarations -/

/-- The statement declares the table with this spelling of its name, and may go on in any way
after it. -/
def Declares (statement : List Char) (table : String) : Prop :=
  ∃ (d : Declaration) (rest : List Char), d.name.name = table ∧ EndsDeclaredName rest ∧
    statement = d.head ++ (d.name.text ++ rest)

/-- A statement in the form of a declaration declares its table. -/
theorem declares_of_statement_eq {statement : List Char} (d : Declaration)
    (h : d.statement = statement) : Declares statement d.name.name :=
  ⟨d, d.body, rfl, d.endsDeclaredName_body, by rw [← h, Declaration.statement, List.append_assoc]⟩

/-- The recogniser finds the name as it was spelled, and does not look beyond what ends it. -/
theorem Declares.declaredName_eq {statement : List Char} {table : String}
    (h : Declares statement table) : declaredName statement = some table.toList := by
  obtain ⟨d, rest, rfl, hends, rfl⟩ := h
  rw [d.declaredName_append hends, TableName.name, String.toList_ofList]

theorem Declares.space_notMem {statement : List Char} {table : String}
    (h : Declares statement table) : ' ' ∉ table.toList := fun hspace =>
  absurd (isWord_of_declaredName h.declaredName_eq hspace) (by decide)

/-- In the fact the name is in lowercase, and so are those of the references. -/
theorem Declares.statementFact_eq {statement : List Char} {table : String}
    (h : Declares statement table) : statementFact statement =
      some ⟨Text.toLowercase table, (references false statement).map statementFact.lowered⟩ := by
  rw [statementFact, h.declaredName_eq, Option.map_some, lowered_eq, String.ofList_toList]

/-- The facts have a table that is declared under its lowercase form. -/
theorem Declares.mem_tables {script statement table : String}
    (h : Declares statement.toList table) (hstatement : statement ∈ Run.schemaStatements script) :
    Text.toLowercase table ∈ Facts.tables (extractDependencies script) := by
  rw [extractDependencies_eq]
  exact Facts.mem_tables.2
    ⟨_, List.mem_filterMap.2 ⟨statement, hstatement, h.statementFact_eq⟩, .inl rfl⟩

/-- A table that is declared is known under the spelling of its declaration if that is in lowercase,
and only then. The document is compared with the names in the facts as it stands, so this is where
mixed case gets lost. -/
theorem Declares.mem_tables_iff {script statement table : String}
    (h : Declares statement.toList table) (hstatement : statement ∈ Run.schemaStatements script) :
    table ∈ Facts.tables (extractDependencies script) ↔ Text.toLowercase table = table := by
  constructor
  · exact toLowercase_of_mem_tables
  · intro hlower
    rw [← hlower]
    exact h.mem_tables hstatement

end Script

end SchemaSeed
