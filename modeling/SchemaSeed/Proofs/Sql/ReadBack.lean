import SchemaSeed.Proofs.Json.Number
import SchemaSeed.Proofs.Text.Stops
import SchemaSeed.Sql.Insert

/-!
# Reading rows back

A reader of the rows of an INSERT, as any SQL front end has one: a quoted literal in which
two quotes stand for one, a bare token up to a comma or a closing parenthesis, fields and
rows with commas between them, and one semicolon at the very end. It knows nothing of how
rows are written. The main statement, `insertStatement_reads_back`, says that it finds in
every statement exactly the rows that the statement was made from, whatever the values hold.
-/

namespace SchemaSeed.Sql

open Text (ne_of_class)

/-- What a reader finds at the place of one value. It does not know which literals were written,
only where a field begins and ends. -/
inductive Field where
  /-- The text of a quoted literal. -/
  | quoted (text : String)
  /-- A token without quotes. -/
  | bare (token : String)
  deriving DecidableEq, Repr

/-! ## The reader -/

namespace Reader

def skipSpace (cs : List Char) : List Char := cs.dropWhile Char.isWhitespace

def isBare (c : Char) : Bool := c != ',' && c != ')'

/-- The text of a literal whose opening quote was read, and what follows the literal. Two quotes
stand for one. -/
def quotedFrom : List Char → Option (List Char × List Char)
  | [] => none
  | '\'' :: '\'' :: rest => (quotedFrom rest).map fun (text, rest) => ('\'' :: text, rest)
  | '\'' :: rest => some ([], rest)
  | c :: rest => (quotedFrom rest).map fun (text, rest) => (c :: text, rest)

def field (cs : List Char) : Option (Field × List Char) :=
  if cs.head? = some '\'' then
    (quotedFrom cs.tail).map fun (text, rest) => (.quoted (String.ofList text), rest)
  else if (cs.takeWhile isBare).isEmpty then none
  else some (.bare (String.ofList (cs.takeWhile isBare)), cs.dropWhile isBare)

theorem length_skipSpace_le (cs : List Char) : (skipSpace cs).length ≤ cs.length :=
  (List.dropWhile_sublist _).length_le

/-- A literal takes one character at least, so that the reader gets on. -/
theorem length_quotedFrom_lt {cs text rest : List Char} (h : quotedFrom cs = some (text, rest)) :
    rest.length < cs.length := by
  fun_induction quotedFrom cs generalizing text with
  | case1 => cases h
  | case2 tail ih =>
    obtain ⟨⟨text', rest'⟩, htail, heq⟩ := Option.map_eq_some_iff.1 h
    cases heq
    have := ih htail
    simp only [List.length_cons]
    omega
  | case3 => cases h; simp
  | case4 c tail _ _ ih =>
    obtain ⟨⟨text', rest'⟩, htail, heq⟩ := Option.map_eq_some_iff.1 h
    cases heq
    have := ih htail
    simp only [List.length_cons]
    omega

theorem length_field_le {cs rest : List Char} {f : Field} (h : field cs = some (f, rest)) :
    rest.length ≤ cs.length := by
  unfold field at h
  split at h
  · obtain ⟨⟨text, rest'⟩, hquoted, heq⟩ := Option.map_eq_some_iff.1 h
    cases heq
    have := length_quotedFrom_lt hquoted
    simp only [List.length_tail] at this
    omega
  · split at h
    · cases h
    · cases h
      exact (List.dropWhile_sublist _).length_le

/-- Fields with commas between them, up to the closing parenthesis. -/
def fields (cs : List Char) : Option (List Field × List Char) :=
  match _hf : field (skipSpace cs) with
  | none => none
  | some (f, after) =>
    match _hs : skipSpace after with
    | [] => none
    | c :: rest =>
      if c = ',' then (fields rest).map fun (fs, rest) => (f :: fs, rest)
      else if c = ')' then some ([f], rest)
      else none
termination_by cs.length
decreasing_by
  have h1 := length_skipSpace_le after
  have h2 := length_field_le _hf
  have h3 := length_skipSpace_le cs
  rw [_hs] at h1
  simp only [List.length_cons] at h1
  omega

/-- A row: fields in parentheses, or parentheses with nothing between them. -/
def row (cs : List Char) : Option (List Field × List Char) :=
  match skipSpace cs with
  | [] => none
  | c :: rest =>
    if c = '(' then
      match skipSpace rest with
      | [] => none
      | d :: rest' => if d = ')' then some ([], rest') else fields rest
    else none

/-- The closing parenthesis is always taken. By induction on the fields. -/
theorem length_fields_lt {cs rest : List Char} {fs : List Field}
    (h : fields cs = some (fs, rest)) : rest.length < cs.length := by
  fun_induction fields cs generalizing fs with
  | case1 => cases h
  | case2 => cases h
  -- Another field follows behind a comma, or the parenthesis ends the row.
  | case3 cs f after hf tail hs ih =>
    obtain ⟨⟨fs', rest'⟩, htail, heq⟩ := Option.map_eq_some_iff.1 h
    cases heq
    have h1 := length_skipSpace_le after
    have h2 := length_field_le hf
    have h3 := length_skipSpace_le cs
    have := ih htail
    rw [hs] at h1
    simp only [List.length_cons] at h1
    omega
  | case4 cs f after hf tail hs =>
    cases h
    have h1 := length_skipSpace_le after
    have h2 := length_field_le hf
    have h3 := length_skipSpace_le cs
    rw [hs] at h1
    simp only [List.length_cons] at h1
    omega
  | case5 => cases h

theorem length_row_lt {cs rest : List Char} {fs : List Field} (h : row cs = some (fs, rest)) :
    rest.length < cs.length := by
  have hcs := length_skipSpace_le cs
  unfold row at h
  split at h
  · cases h
  next c tail hopen =>
    rw [hopen] at hcs
    have htail := length_skipSpace_le tail
    simp only [List.length_cons] at hcs
    -- An empty row is its two parentheses; any other one has fields between them.
    split at h
    · split at h
      · cases h
      next d tail' hclose =>
        rw [hclose] at htail
        simp only [List.length_cons] at htail
        split at h
        · cases h
          omega
        · have := length_fields_lt h
          omega
    · cases h

/-- Rows with commas between them. The last one is followed by a semicolon, with which the text
ends. So nothing can stand behind the rows that the reader would not see. -/
def rows (cs : List Char) : Option (List (List Field)) :=
  match _hr : row cs with
  | none => none
  | some (r, after) =>
    match _hs : skipSpace after with
    | [] => none
    | c :: rest =>
      if c = ',' then (rows rest).map (r :: ·)
      else if c = ';' ∧ rest = [] then some [r]
      else none
termination_by cs.length
decreasing_by
  have h1 := length_skipSpace_le after
  have h2 := length_row_lt _hr
  rw [_hs] at h1
  simp only [List.length_cons] at h1
  omega

end Reader

/-! ## One value -/

/-- What a reader must find in a column to which a row gives this value, or none. A row without the
column is as good as one with `null`. -/
def Field.ofCell : Option Json.Value → Field
  | none | some .null => .bare "NULL"
  | some (.bool b) => .bare (if b then "true" else "false")
  | some (.number (.int i)) => .bare (toString i)
  | some (.number (.real x)) => .bare (String.ofList (Json.realText x))
  | some (.string s) => .quoted s
  | some (.array items) => .quoted (Json.Value.array items).toCompact
  | some (.object members) => .quoted (Json.Value.object members).toCompact

namespace Reader

/-- A text that ends a field. The reader must see the end at once, for a quote would go on with a
literal, and any other character with a token. -/
def EndsField (rest : List Char) : Prop :=
  ∃ c tail, rest = c :: tail ∧ (c = ',' ∨ c = ')')

/-- A literal is read as the text that was escaped for it. By induction on the text, a quote of
which was written as two. -/
theorem quotedFrom_escape (cs : List Char) {rest : List Char} (h : EndsField rest) :
    quotedFrom (escape cs ++ '\'' :: rest) = some (cs, rest) := by
  obtain ⟨d, tail, rfl, hd⟩ := h
  have hne : d ≠ '\'' := by rcases hd with rfl | rfl <;> decide
  -- The quote that ends the literal is followed by no other one, by `hne`.
  induction cs with
  | nil =>
    rw [escape, List.flatMap_nil, List.nil_append, quotedFrom]
    rintro rest ⟨⟩
    exact hne rfl
  | cons c cs ih =>
    rw [escape, List.flatMap_cons, ← escape]
    by_cases hc : c = '\''
    · subst hc
      rw [if_pos rfl]
      show quotedFrom ('\'' :: '\'' :: (escape cs ++ '\'' :: d :: tail)) = _
      rw [quotedFrom, ih, Option.map_some]
    · rw [if_neg hc]
      show quotedFrom (c :: (escape cs ++ '\'' :: d :: tail)) = _
      rw [quotedFrom, ih, Option.map_some]
      · intro _ h _
        exact hc h
      · exact hc

theorem field_quote (cs : List Char) {rest : List Char} (h : EndsField rest) :
    field (quote cs ++ rest) = some (.quoted (String.ofList cs), rest) := by
  have hquoted := quotedFrom_escape cs h
  simp [field, quote, hquoted]

/-- A token of bare characters that does not begin with a quote is one field. This serves the words
and the numbers. -/
theorem field_bare (token : List Char) {rest : List Char} (hne : token ≠ [])
    (hbare : ∀ c ∈ token, isBare c = true ∧ c ≠ '\'') (h : EndsField rest) :
    field (token ++ rest) = some (.bare (String.ofList token), rest) := by
  obtain ⟨d, tail, rfl, hd⟩ := h
  have hstop : isBare d = false := by rcases hd with rfl | rfl <;> rfl
  have hall : ∀ c ∈ token, isBare c = true := fun c hc => (hbare c hc).1
  have hhead : (token ++ d :: tail).head? ≠ some '\'' := by
    cases token with
    | nil => exact absurd rfl hne
    | cons c token =>
      intro heq
      exact (hbare c List.mem_cons_self).2 (Option.some.inj heq)
  have htake : (token ++ d :: tail).takeWhile isBare = token := by
    rw [List.takeWhile_append_of_pos hall, List.takeWhile_cons_of_neg (by simp [hstop]),
      List.append_nil]
  have hdrop : (token ++ d :: tail).dropWhile isBare = d :: tail := by
    rw [List.dropWhile_append_of_pos hall, List.dropWhile_cons_of_neg (by simp [hstop])]
  rw [field, if_neg hhead, htake, hdrop, if_neg (by simp [hne])]

/-- A class of characters that stand in bare tokens: neither of the marks that end a field is in it,
and no quote. -/
theorem isBare_of_class {p : Char → Bool} {c : Char} (hc : p c = true) (hcomma : p ',' = false)
    (hclose : p ')' = false) (hquote : p '\'' = false) : isBare c = true ∧ c ≠ '\'' := by
  have hne_comma := ne_of_class hc hcomma
  have hne_close := ne_of_class hc hclose
  exact ⟨by simp [isBare, hne_comma, hne_close], ne_of_class hc hquote⟩

theorem field_word (word : String) {rest : List Char} (hne : word.toList ≠ [])
    (hletters : word.toList.all Char.isAlpha = true) (h : EndsField rest) :
    field (word.toList ++ rest) = some (.bare (String.ofList word.toList), rest) := by
  refine field_bare word.toList hne (fun c hc => ?_) h
  exact isBare_of_class (List.all_eq_true.1 hletters c hc) (by decide) (by decide) (by decide)

/-- Numbers are digits, signs, points and exponent letters. -/
theorem field_number (n : Json.Number) {rest : List Char} (h : EndsField rest) :
    field (n.text ++ rest) = some (.bare (String.ofList n.text), rest) := by
  refine field_bare n.text n.text_ne_nil (fun c hc => ?_) h
  exact isBare_of_class (Json.Number.isNumeral_of_mem_text hc) (by decide) (by decide) (by decide)

/-- A literal ends where its value does, whatever follows the field. Lists and objects are written
as quoted texts. -/
theorem field_literal (v : Json.Value) {rest : List Char} (h : EndsField rest) :
    field (literal v ++ rest) = some (Field.ofCell (some v), rest) := by
  cases v with
  | null => exact field_word "NULL" (by decide) (by decide) h
  | bool b =>
    cases b with
    | false => exact field_word "false" (by decide) (by decide) h
    | true => exact field_word "true" (by decide) (by decide) h
  | number n =>
    have hfield := field_number n h
    cases n with
    | int i =>
      rw [Field.ofCell, ← Json.intText_eq_toString]
      exact hfield
    | real x => exact hfield
  | string s =>
    have hfield := field_quote s.toList h
    rwa [String.ofList_toList] at hfield
  | array items => exact field_quote _ h
  | object members => exact field_quote _ h

/-- So a cell is read as what the row says of its column. -/
theorem field_cell (r : Row) (column : String) {rest : List Char} (h : EndsField rest) :
    field (cell r column ++ rest) = some (Field.ofCell (Assoc.find? r column), rest) := by
  unfold cell
  rw [field_literal _ h]
  cases Assoc.find? r column <;> rfl

/-! ## Rows -/

theorem skipSpace_cons_of_not {c : Char} (h : c.isWhitespace = false) (rest : List Char) :
    skipSpace (c :: rest) = c :: rest := by
  rw [skipSpace, List.dropWhile_cons_of_neg (by simp [h])]

theorem isWhitespace_of_isNumeral {c : Char} (h : Json.isNumeral c = true) :
    c.isWhitespace = false := by
  rw [Bool.eq_false_iff]
  intro hspace
  simp only [Char.isWhitespace, Bool.or_eq_true, decide_eq_true_eq] at hspace
  rcases hspace with ((rfl | rfl) | rfl) | rfl <;> revert h <;> decide

/-- A literal is not empty and begins with no blank and no parenthesis. Hence a row with columns is
not taken for one without. -/
theorem exists_cons_literal (v : Json.Value) :
    ∃ c tail, literal v = c :: tail ∧ c.isWhitespace = false ∧ c ≠ ')' := by
  cases v with
  | null => exact ⟨'N', "ULL".toList, rfl, rfl, by decide⟩
  | bool b =>
    cases b with
    | false => exact ⟨'f', "alse".toList, rfl, rfl, by decide⟩
    | true => exact ⟨'t', "rue".toList, rfl, rfl, by decide⟩
  -- Of a number only the class of its characters is known.
  | number n =>
    obtain ⟨c, tail, htext⟩ := List.exists_cons_of_ne_nil n.text_ne_nil
    have hc : Json.isNumeral c = true :=
      Json.Number.isNumeral_of_mem_text (htext ▸ List.mem_cons_self)
    refine ⟨c, tail, htext, isWhitespace_of_isNumeral hc, ?_⟩
    rintro rfl
    revert hc
    decide
  | string s => exact ⟨'\'', _, rfl, rfl, by decide⟩
  | array items => exact ⟨'\'', _, rfl, rfl, by decide⟩
  | object members => exact ⟨'\'', _, rfl, rfl, by decide⟩

theorem skipSpace_cell (r : Row) (column : String) (rest : List Char) :
    skipSpace (cell r column ++ rest) = cell r column ++ rest := by
  obtain ⟨c, tail, hcell, hspace, -⟩ := exists_cons_literal ((Assoc.find? r column).getD .null)
  rw [cell, hcell]
  exact skipSpace_cons_of_not hspace _

/-- A blank before the first field changes nothing. -/
theorem fields_space (cs : List Char) : fields (' ' :: cs) = fields cs := by
  have hskip : skipSpace (' ' :: cs) = skipSpace cs := rfl
  rw [fields, fields, hskip]

/-- All cells of a row are read, up to the parenthesis that ends it. By induction on the columns. -/
theorem fields_cells (r : Row) (column : String) (columns : List String) (rest : List Char) :
    fields (commaSeparated ((column :: columns).map (cell r)) ++ ')' :: rest) =
      some ((column :: columns).map fun column => Field.ofCell (Assoc.find? r column), rest) := by
  induction columns generalizing column with
  | nil =>
    have hends : EndsField (')' :: rest) := ⟨')', rest, rfl, .inr rfl⟩
    have hfield := field_cell r column hends
    rw [List.map_singleton, commaSeparated, List.intercalate_singleton, fields, skipSpace_cell,
      hfield]
    rfl
  | cons next columns ih =>
    have hnext := ih next
    rw [List.map_cons, List.map_cons, commaSeparated, List.intercalate_cons_cons,
      List.append_assoc, List.append_assoc, ← commaSeparated, ← List.map_cons]
    -- What follows the first comma is read by induction, and need not be looked into.
    generalize commaSeparated ((next :: columns).map (cell r)) ++ ')' :: rest = tail at hnext ⊢
    have hends : EndsField (',' :: ' ' :: tail) := ⟨',', _, rfl, .inl rfl⟩
    have hfield := field_cell r column hends
    show fields (cell r column ++ ',' :: ' ' :: tail) = _
    rw [fields, skipSpace_cell, hfield]
    show (fields (' ' :: tail)).map _ = _
    rw [fields_space, hnext]
    rfl

/-- A row is read whole, also one without columns, of which nothing stands between the parentheses.
-/
theorem row_tuple (columns : List String) (r : Row) (rest : List Char) :
    row (tuple columns r ++ rest) =
      some (columns.map fun column => Field.ofCell (Assoc.find? r column), rest) := by
  cases columns with
  | nil => rfl
  | cons column columns =>
    have hfields := fields_cells r column columns rest
    have htext : tuple (column :: columns) r ++ rest =
        '\t' :: '(' :: (commaSeparated ((column :: columns).map (cell r)) ++ ')' :: rest) := by
      simp [tuple]
    -- The first field begins with no closing parenthesis, so the row is not taken for empty.
    obtain ⟨c, tail, hliteral, hspace, hclose⟩ :=
      exists_cons_literal ((Assoc.find? r column).getD .null)
    obtain ⟨after, hafter⟩ : ∃ after,
        commaSeparated ((column :: columns).map (cell r)) ++ ')' :: rest = c :: after := by
      cases columns <;> simp [commaSeparated, cell, hliteral]
    rw [htext]
    rw [hafter] at hfields ⊢
    have hopen : skipSpace ('\t' :: '(' :: c :: after) = '(' :: c :: after := rfl
    rw [row, hopen]
    simp only [if_true, skipSpace_cons_of_not hspace, hclose, if_false, hfields]

/-- All rows are read, up to the semicolon. By induction on the rows after the first. -/
theorem rows_tuples (columns : List String) (r : Row) (rs : List Row) :
    rows ([',', '\n'].intercalate ((r :: rs).map (tuple columns)) ++ [';']) =
      some ((r :: rs).map fun r => columns.map fun column =>
        Field.ofCell (Assoc.find? r column)) := by
  induction rs generalizing r with
  | nil =>
    rw [List.map_singleton, List.intercalate_singleton, rows, row_tuple]
    rfl
  | cons next rs ih =>
    have hnext := ih next
    rw [List.map_cons, List.map_cons, List.intercalate_cons_cons, List.append_assoc,
      List.append_assoc, ← List.map_cons]
    generalize [',', '\n'].intercalate ((next :: rs).map (tuple columns)) ++ [';'] = tail
      at hnext ⊢
    show rows (tuple columns r ++ ',' :: '\n' :: tail) = _
    rw [rows, row_tuple]
    show (rows ('\n' :: tail)).map _ = _
    -- A line feed before a row counts as a blank.
    have hspace : rows ('\n' :: tail) = rows tail := by
      have hrow : row ('\n' :: tail) = row tail := rfl
      rw [rows, rows, hrow]
    rw [hspace, hnext]
    rfl

end Reader

theorem ofList_commaSeparated (columns : List String) :
    String.ofList (commaSeparated (columns.map String.toList)) = ", ".intercalate columns := by
  rw [← String.ofList_toList (s := ", ".intercalate columns), String.toList_intercalate]
  rfl

theorem ofList_insertHeader (table : String) (columns : List String) :
    String.ofList (insertHeader table columns) =
      "INSERT INTO " ++ table ++ " (" ++ ", ".intercalate columns ++ ")\nVALUES\n" := by
  unfold insertHeader
  simp only [String.ofList_append, String.ofList_toList, ofList_commaSeparated]

/-- The statement for a list of rows is a header with the columns of the first row, and a body in
which a reader finds one line for each row and in it one field for each column: what the row gives
to the column, or `NULL`. No text in a row can end its literal early or add to the row. -/
theorem insertStatement_reads_back (table : String) (first : Row) (others : List Row) :
    ∃ body : String,
      insertStatement table (first :: others) = some ("INSERT INTO " ++ table ++ " (" ++
        ", ".intercalate (Assoc.keys first) ++ ")\nVALUES\n" ++ body) ∧
      Reader.rows body.toList = some ((first :: others).map fun row =>
        (Assoc.keys first).map fun column => Field.ofCell (Assoc.find? row column)) := by
  refine ⟨String.ofList ([',', '\n'].intercalate
    ((first :: others).map (tuple (Assoc.keys first))) ++ [';']), ?_, ?_⟩
  · rw [insertStatement, List.append_assoc, String.ofList_append, ofList_insertHeader]
  · rw [String.toList_ofList]
    exact Reader.rows_tuples _ _ _

/-- Nothing may follow the semicolon, and a quote inside a literal must be doubled. -/
example : Reader.rows "(1, 'it''s;'), ();".toList =
      some [[.bare "1", .quoted "it's;"], []] ∧
    Reader.rows "(1); (2);".toList = none ∧ Reader.rows "('it's');".toList = none := by
  decide +kernel

end SchemaSeed.Sql
