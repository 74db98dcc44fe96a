import SchemaSeed.Proofs.Json.Accepted
import SchemaSeed.Proofs.Json.ValueText
import SchemaSeed.Proofs.MockData

/-!
# Documents that are read

A document is read as the tables and rows that stand in it, and nothing but an object of
lists of objects is read (`parse_document`). A table that comes again stands where it came
first, with the rows that it has last, and so does a column in its row. Tables and columns may
have any name; but a value that is an object is not read as one if its first key is
`Json.embeddedKey`, since it then stands for the value whose text it holds
(`parse_embedded_column`).
-/

namespace SchemaSeed.MockData

open Json (Derives IsCharacters IsLayout IsListOf IsObjectOf IsSpaces IsWritable ListText
  MemberText ObjectText ReadsEntry TakesOnly Value ValueText compact depthLimit prettyAt)

variable {tables : List (String × List Row)} {cs : List Char}

/-- How deep a value in a row may be: the document, the rows of a table and each row are
containers around it. -/
def valueDepth : Nat := depthLimit - 3

/-- The text of a document with these tables, as they follow one another in it. -/
def DocumentText : List (String × List Row) → List Char → Prop :=
  ObjectText (ListText (ObjectText (ValueText valueDepth)))

/-- Each table once, with its last rows, and in each row each column once, with its last value: what
a document says in the end. -/
def settled (tables : List (String × List Row)) : MockData :=
  Assoc.lastOfEach (tables.map fun table => (table.1, table.2.map Assoc.lastOfEach))

/-! ## What is read -/

/-- A row is read as its columns, each once. The depth is what is left of it inside the two
containers around a row. -/
theorem row_readsEntry {r : Row} (h : ObjectText (ValueText valueDepth) r cs) :
    ReadsEntry (row (depthLimit - 1 - 1)) (Assoc.lastOfEach r) cs := by
  rw [← Assoc.ofPairs_eq_lastOfEach]
  exact h.readsEntry (fun _ _ h => h.readsEntry) (by decide)

theorem rows_readsEntry {rs : List Row} (h : ListText (ObjectText (ValueText valueDepth)) rs cs) :
    ReadsEntry (rows (depthLimit - 1)) (rs.map Assoc.lastOfEach) cs := by
  have hrows : ListText (ReadsEntry (row (depthLimit - 1 - 1))) (rs.map Assoc.lastOfEach) cs :=
    h.map fun _ _ => row_readsEntry
  exact hrows.readsEntry (fun _ _ h => h) (by decide)

/-- A document is read as what it says in the end, with any text behind it. -/
theorem DocumentText.readsEntry (h : DocumentText tables cs) :
    ReadsEntry reader (settled tables) cs := by
  have htables : ObjectText (ReadsEntry (rows (depthLimit - 1)))
      (tables.map fun table => (table.1, table.2.map Assoc.lastOfEach)) cs :=
    ObjectText.map h fun _ _ => rows_readsEntry
  rw [settled, ← Assoc.ofPairs_eq_lastOfEach]
  exact htables.readsEntry (fun _ _ h => h) (by decide)

/-! ## What is written -/

def rowsValue (rs : List Row) : Value := .array (rs.map .object)

def document (tables : List (String × List Row)) : Value :=
  .object (tables.map fun table => (table.1, rowsValue table.2))

/-- A document that is written in some layout has a text of this shape, if its values can be
written. -/
theorem documentText_document {write : Nat → Value → List Char} (hwrite : IsLayout write)
    (hvalues : ∀ table ∈ tables, ∀ row ∈ table.2, ∀ column ∈ row,
      IsWritable valueDepth column.2) :
    DocumentText tables (write 0 (document tables)) := by
  have htables := hwrite.object 0 (tables.map fun table => (table.1, rowsValue table.2))
  refine ObjectText.of_map (f := rowsValue) htables fun table htable => ?_
  rintro _ rfl
  refine (hwrite.list 1 _).of_map fun row hrow => ?_
  rintro _ rfl
  refine (hwrite.object 2 row).imp (List.forall₂_same.2 fun column hcolumn => ⟨rfl, ?_⟩)
  rintro _ rfl
  exact (hvalues table htable row hrow column hcolumn).valueText hwrite 3

/-! ## What is refused -/

def IsRows : List Char → Prop := IsListOf (IsObjectOf (Derives .value))

def IsDocument : List Char → Prop := IsObjectOf IsRows

theorem IsRows.derives (h : IsRows cs) : Derives .value cs :=
  (h.mono fun _ => IsObjectOf.derives).derives

theorem IsDocument.derives (h : IsDocument cs) : Derives .value cs :=
  (h.mono fun _ => IsRows.derives).derives

/-- The reader takes nothing but the texts of objects of lists of objects: its parts are readers of
one container each. -/
theorem takesOnly_reader : TakesOnly reader IsDocument :=
  Json.takesOnly_object (Json.takesOnly_list (Json.takesOnly_object (Json.takesOnly_value _) _) _) _

/-- The text is no object, or it gives a table something else than a list of objects, whether the
table comes again or not. A text that is overwritten later must be of the right shape too. -/
inductive Misshapen : List Char → Prop
  | noObject {cs : List Char} (h : cs.head? ≠ some '\x7b') : Misshapen cs
  | table {m : MemberText} {ms : List MemberText} (hkeys : ∀ x ∈ m :: ms, IsCharacters x.key)
      (hvalues : ∀ x ∈ m :: ms, Derives .value x.value) {x : MemberText} (hx : x ∈ m :: ms)
      (h : ¬ IsRows x.value) : Misshapen ('\x7b' :: m.object ms [])

/-- An object has its members in one way only, so that a wrong one among them cannot be read in
another way. -/
theorem Misshapen.not_isDocument (h : Misshapen cs) : ¬ IsDocument cs := by
  intro hdocument
  cases h with
  | noObject h =>
    obtain ⟨members, hmembers⟩ := hdocument
    cases hmembers <;> exact h rfl
  | table hkeys hvalues hx h =>
    exact h (IsObjectOf.forall_members (fun _ => IsRows.derives) hdocument hkeys hvalues _ hx)

/-- What was read is the text of an object of lists of objects, with blanks around it. What follows
the blanks is settled, because values cannot go on into one another. -/
theorem isDocument_of_parse {before after : List Char} {data : MockData} (hbefore : IsSpaces before)
    (hafter : IsSpaces after) (hvalue : Derives .value cs)
    (h : parse (String.ofList (before ++ (cs ++ after))) = .ok data) : IsDocument cs := by
  obtain ⟨t, hread, hrest, -⟩ := Json.parse_eq_ok.1 h
  obtain ⟨w, body, hw, hbody, hcs⟩ := takesOnly_reader hread
  replace hcs := String.toList_ofList.symm.trans hcs
  have hrest : IsSpaces t.rest := List.dropWhile_eq_nil_iff.1 hrest
  obtain ⟨rfl, -⟩ := hvalue.value_unique hbody.derives hbefore hw hafter.stops hrest.stops hcs
  exact hbody

/-- A document is read as its tables and rows, in whichever layout it is written and with
blanks around it, and objects that embed a text as the values of their texts. A text of another
shape is refused. -/
theorem parse_document :
    (∀ tables before cs after, IsSpaces before → DocumentText tables cs → IsSpaces after →
      parse (String.ofList (before ++ (cs ++ after))) = .ok (settled tables)) ∧
    (∀ tables : List (String × List Row), (∀ table ∈ tables, ∀ row ∈ table.2, ∀ column ∈ row,
        IsWritable valueDepth column.2) →
      parse (document tables).toCompact = .ok (settled tables) ∧
        parse (document tables).toPretty = .ok (settled tables)) ∧
    ∀ before cs after, IsSpaces before → Derives .value cs → IsSpaces after → Misshapen cs →
      ∃ message, parse (String.ofList (before ++ (cs ++ after))) = .error message := by
  refine ⟨fun tables before cs after hbefore h hafter => ?_, fun tables hvalues => ⟨?_, ?_⟩,
    fun before cs after hbefore hvalue hafter h => ?_⟩
  · exact Json.parse_padded_of_reads h.readsEntry.reads hbefore hafter
  · have htext := documentText_document Json.isLayout_compact hvalues
    exact Json.parse_of_reads htext.readsEntry.reads
  · have htext := documentText_document Json.isLayout_prettyAt hvalues
    exact Json.parse_of_reads htext.readsEntry.reads
  -- Whatever is read is a document, and a text of another shape is none.
  · cases hparse : parse (String.ofList (before ++ (cs ++ after))) with
    | error message => exact ⟨message, rfl⟩
    | ok data => exact absurd (isDocument_of_parse hbefore hafter hvalue hparse) h.not_isDocument

/-- A column whose value is an object with the key of an embedded text comes back as the value that
the text is read as, which is a number here, and not as the object that was written. The document as
it is written is in the domain of values that can be written but for that key. -/
theorem parse_embedded_column :
    let tables : List (String × List Row) :=
      [("t", [[("c", .object [("$serde_json::private::RawValue", .string "1")])]])]
    (document tables).toCompact =
        "\x7b\"t\":[\x7b\"c\":\x7b\"$serde_json::private::RawValue\":\"1\"\x7d\x7d]\x7d" ∧
      parse (document tables).toCompact ≠ .ok (settled tables) ∧
      (parse (document tables).toCompact).toOption.map (fun data => (document data).toCompact) =
        some "\x7b\"t\":[\x7b\"c\":1\x7d]\x7d" := by
  intro tables
  have hread : (parse (document tables).toCompact).toOption.map
      (fun data => (document data).toCompact) = some "\x7b\"t\":[\x7b\"c\":1\x7d]\x7d" := by
    decide +kernel
  refine ⟨by decide +kernel, fun h => ?_, hread⟩
  rw [h] at hread
  revert hread
  decide +kernel

example : (parse ("\x7b\"b\": [], \"a\": [\x7b\x7d], \"b\": " ++
      "[\x7b\"y\": 1, \"x\": 2, \"y\": null\x7d]\x7d")).toOption =
    some [("b", [[("y", .null), ("x", .number (.int 2))]]), ("a", [[]])] := by
  with_unfolding_all rfl

example : (parse "\x7b\"a\": 1, \"a\": []\x7d").toOption.isNone = true := by
  with_unfolding_all rfl

end SchemaSeed.MockData
