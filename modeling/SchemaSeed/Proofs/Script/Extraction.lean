import SchemaSeed.Proofs.Script.Reference
import SchemaSeed.Proofs.Script.Scan
import SchemaSeed.Proofs.Text.Split

/-!
# Extraction inverts rendering

A script that was rendered from declarations gives back one fact for each of them
(`extractDependencies_render`). There are no comments or literals in such a script to strip
(`Unmarked.strip_eq`), its semicolons are those between the declarations (`split_intercalate`),
and what is left of a declaration without the blanks around it is recognised.
-/

namespace SchemaSeed

namespace Script

open Text (isBlank isWord Stops stops_cons dropWhile_append_stops)

/-! ## Declarations are plain -/

/-- The marks that matter to the scan are not plain: the semicolon, the quote, and what begins a
comment. -/
theorem not_isPlain {c : Char} (h : c ∈ [';', '\'', '-', '/']) : isPlain c = false := by
  simp only [List.mem_cons, List.not_mem_nil, or_false] at h
  rcases h with rfl | rfl | rfl | rfl <;> decide +kernel

/-- Words and blanks are plain. The cases are the words that may stand between `CREATE` and `TABLE`.
-/
theorem Modifier.plain (m : Modifier) : Plain m.text := by
  cases m with
  | unlogged k => exact k.plain
  | temporary scope t =>
    refine (plain_getD (fun scope => ?_) scope).append ?_
    · cases scope with
      | everywhere k => exact k.plain
      | here k => exact k.plain
    · cases t with
      | long k => exact k.plain
      | short k => exact k.plain

theorem Guard.plain (g : Guard) : Plain g.text :=
  (g.condition.plain.append g.negation.plain).append g.existence.plain

/-- A foreign key is made of words, blanks, parentheses and the marks around names, so that nothing
in it is taken for a comment or ends the statement. -/
theorem ForeignKey.plain (k : ForeignKey) : Plain k.text := by
  have hkey : Plain k.key.text := fun c h => by simp [isPlain, k.key.isWord_of_mem h]
  have htarget : Plain k.targetText :=
    plain_getD (fun t => t.1.plain.append t.2.plain_enclosed) _
  exact ((((((k.foreign.plain.append hkey).append k.beforeColumns.plain).append
    k.columns.plain_enclosed).append k.afterColumns.plain).append k.references.plain).append
      k.target.plain).append htarget

/-- An item in parentheses is plain with the blanks around it, whether it is a column or a foreign
key. -/
theorem PaddedItem.plain (p : PaddedItem) : Plain p.text := by
  refine (p.before.plain.append ?_).append p.after.plain
  cases p.item with
  | column name gap type => exact (name.plain.append gap.plain).append type.plain
  | foreignKey k => exact k.plain

/-- What stands in a list of texts stands in one of them, unless it separates them. -/
theorem mem_intercalate {separator c : Char} {texts : List (List Char)}
    (h : c ∈ [separator].intercalate texts) : c = separator ∨ ∃ t ∈ texts, c ∈ t := by
  induction texts with
  | nil => cases h
  | cons t texts ih =>
    cases texts with
    | nil =>
      rw [List.intercalate_singleton] at h
      exact .inr ⟨t, List.mem_cons_self, h⟩
    | cons u texts =>
      rw [List.intercalate_cons_cons, List.mem_append, List.mem_append, List.mem_singleton] at h
      rcases h with (h | h) | h
      · exact .inr ⟨t, List.mem_cons_self, h⟩
      · exact .inl h
      · exact (ih h).imp_right fun ⟨v, hv, hc⟩ => ⟨v, List.mem_cons_of_mem _ hv, hc⟩

namespace Declaration

variable (d : Declaration)

/-- A declaration holds no mark that the scan looks for. It is put together from parts of which this
is known. -/
theorem plain_statement : Plain d.statement := by
  have hitems : Plain d.itemsText := by
    intro c hc
    rcases mem_intercalate hc with rfl | ⟨t, ht, hct⟩
    · rfl
    · obtain ⟨p, -, rfl⟩ := List.mem_map.1 ht
      exact p.plain c hct
  have hhead : Plain d.head :=
    ((d.create.plain.append (plain_getD Modifier.plain _)).append d.table.plain).append
      (plain_getD Guard.plain _)
  have hbody : Plain d.body :=
    ((d.beforeItems.plain.append (.cons rfl d.afterOpening.plain)).append hitems).append
      (.singleton rfl)
  exact (hhead.append d.name.plain).append hbody

theorem plain : Plain d.text := (d.before.plain.append d.plain_statement).append d.after.plain

/-! ## Statements -/

/-- A statement begins with the letter of `CREATE`. -/
theorem stops_isBlank_statement : Stops isBlank (d.statement ++ rest) := by
  rw [statement, head, List.append_assoc, List.append_assoc, List.append_assoc, List.append_assoc,
    List.append_assoc]
  exact d.create.stops_isBlank

/-- A statement begins with a letter and ends with a parenthesis, so only the blanks around
it are dropped. -/
theorem trim_text : Text.trim d.text = d.statement := by
  have hstart : Text.trimStart d.text = d.statement ++ d.after.text := by
    rw [text, List.append_assoc]
    exact dropWhile_append_stops d.before.blank d.stops_isBlank_statement
  have hlast : Stops isBlank d.statement.reverse := by
    rw [statement, body, ← List.append_assoc, List.reverse_append]
    exact stops_cons (by decide)
  have hafter : ∀ c ∈ d.after.text.reverse, isBlank c = true :=
    fun c hc => d.after.blank c (List.mem_reverse.1 hc)
  rw [Text.trim, hstart, Text.trimEnd, List.reverse_append, dropWhile_append_stops hafter hlast,
    List.reverse_reverse]

theorem statement_ne_nil : d.statement ≠ [] := by
  rw [statement, body]
  simp

/-- Both recognisers on one statement: the name behind its head, and the targets of its foreign
keys, which are all that is found in the items. -/
theorem statementFact_statement : statementFact d.statement = some d.fact := by
  have hlowered : ∀ name : List Char,
      statementFact.lowered name = Text.toLowercase (String.ofList name) := by
    intro name
    rw [statementFact.lowered, Text.toLowercase, String.toList_ofList]
  have hreferences : (Script.references false d.statement).map statementFact.lowered =
      d.references.map Text.toLowercase := by
    rw [← references_statement, List.map_map]
    exact List.map_congr_left fun name _ => hlowered name
  rw [statementFact, declaredName_statement, Option.map_some, hlowered, hreferences]
  rfl

end Declaration

/-- The text between two semicolons is a declaration with its blanks, and none of them is empty
without these. By induction on the declarations. -/
theorem statements_intercalate (ds : List Declaration) :
    statements ([';'].intercalate (ds.map Declaration.text)) = ds.map Declaration.statement := by
  cases ds with
  | nil =>
    rw [List.map_nil, List.intercalate_nil, statements, Text.split_of_notMem List.not_mem_nil]
    rfl
  | cons d ds =>
    -- The semicolons between the declarations are all there are.
    have hpieces : ∀ piece ∈ (d :: ds).map Declaration.text, ';' ∉ piece := by
      intro piece hpiece hmem
      obtain ⟨e, -, rfl⟩ := List.mem_map.1 hpiece
      have hplain := e.plain _ hmem
      rw [not_isPlain (c := ';') (by decide)] at hplain
      cases hplain
    have htrim : ((d :: ds).map Declaration.text).map Text.trim =
        (d :: ds).map Declaration.statement := by
      rw [List.map_map]
      exact List.map_congr_left fun e _ => e.trim_text
    rw [statements, Text.split_intercalate (by simp) hpieces, htrim, List.filter_eq_self]
    intro statement h
    obtain ⟨e, -, rfl⟩ := List.mem_map.1 h
    simpa using e.statement_ne_nil

/-- Where no literal and no comment begins, nothing is stripped. -/
theorem strip_intercalate (ds : List Declaration) :
    strip ([';'].intercalate (ds.map Declaration.text)) =
      [';'].intercalate (ds.map Declaration.text) := by
  refine (unmarked_of_forall fun c hc => ?_).strip_eq
  rcases mem_intercalate hc with rfl | ⟨t, ht, hct⟩
  · decide
  · obtain ⟨d, -, rfl⟩ := List.mem_map.1 ht
    have hplain := d.plain c hct
    refine ⟨?_, ?_, ?_⟩
    all_goals
      rintro rfl
      rw [not_isPlain (by decide)] at hplain
      cases hplain

/-- From a script of declarations, one fact is extracted for each declaration, in their
order: the name of the table and those of the tables that it refers to, in lowercase, as
often as they were written. -/
theorem extractDependencies_render (declarations : List Declaration) :
    extractDependencies (render declarations) = declarations.map Declaration.fact := by
  have hfact : statementFact ∘ Declaration.statement = some ∘ Declaration.fact :=
    funext fun d => d.statementFact_statement
  rw [extractDependencies, render, String.toList_ofList, strip_intercalate,
    statements_intercalate, List.filterMap_map, hfact, List.filterMap_eq_map]

/-- A table called `If`, in a schema called `Table`, that refers to one called `FOREIGN`. -/
example :
    let nothing : Blanks := ⟨[], List.all_eq_true.1 rfl⟩
    let line : Gap := ⟨⟨['\n', '\t'], List.all_eq_true.1 rfl⟩, by decide⟩
    let table : Word := ⟨"Table".toList, List.all_eq_true.1 (by decide +kernel), by decide⟩
    let condition : Word := ⟨"If".toList, List.all_eq_true.1 (by decide +kernel), by decide⟩
    let foreign : Word := ⟨"FOREIGN".toList, List.all_eq_true.1 (by decide +kernel), by decide⟩
    let key : ForeignKey :=
      { foreign := ⟨{ text := "Foreign".toList, spells := by decide }, line⟩
        key := { text := "KEY".toList, spells := by decide }
        beforeColumns := nothing
        columns := ⟨foreign.text, fun c hc => .inl (foreign.word c hc)⟩
        afterColumns := nothing
        references := ⟨{ text := "references".toList, spells := by decide }, line⟩
        target := ⟨none, ⟨foreign, true⟩⟩
        targetColumns := none }
    let declaration : Declaration :=
      { before := nothing
        create := ⟨{ text := "CREATE".toList, spells := by decide }, line⟩
        modifier := none
        table := ⟨{ text := "table".toList, spells := by decide }, line⟩
        guard := none
        name := ⟨some ⟨⟨table, false⟩, line.toBlanks, nothing⟩, ⟨condition, false⟩⟩
        beforeItems := nothing
        afterOpening := nothing
        items := [⟨nothing, .column foreign line table, nothing⟩, ⟨nothing, .foreignKey key, nothing⟩]
        after := nothing }
    render [declaration] = "CREATE\n\ttable\n\tTable\n\t.If(FOREIGN\n\tTable," ++
      "Foreign\n\tKEY(FOREIGN)references\n\t\"FOREIGN\")" ∧
    extractDependencies (render [declaration]) = [⟨"if", ["foreign"]⟩] := by
  decide +kernel

end Script

end SchemaSeed
