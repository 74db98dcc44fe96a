import SchemaSeed.Proofs.Script.Composition
import SchemaSeed.Proofs.Script.Likeness

/-!
# What a literal may hold

Only the removal of comments knows of literals. The cut into statements and the search for
foreign keys read what stands between the quotes like the rest of the script, so that it can
matter (`literal_text_matters`). It does so in three ways only: by a semicolon, by the
beginning of a foreign key, or by closing the parenthesis of one that began before it.
Whatever else it says is data. The main statement is `literals_are_data`.
-/

namespace SchemaSeed.Script

open Text (isBlank isWord Stops stops_cons)

variable {as bs cs rest body text front : List Char}

def quoted (body rest : List Char) : List Char := '\'' :: (body ++ '\'' :: rest)

/-! ## Comments -/

/-- A literal after a closed text is kept as it is. If the text itself ends in a literal, the two
are one literal with a pair of quotes in it, which is kept all the same. -/
theorem Closed.strip_quoted (has : Closed as) (hbody : '\'' ∉ body)
    (hbs : Stops (· == '\'') bs) :
    strip (as ++ quoted body bs) = strip as ++ quoted body (strip bs) := by
  induction as using pieces_induction with
  | nil =>
    have hclose : Closes body bs := .single (paired_of_notMem hbody) hbs
    rw [strip_nil, List.nil_append, List.nil_append, quoted, (Begins.literal hclose).strip_eq]
    simp [Piece.kept, quoted]
  | @piece cs piece rest hbegins ih =>
    -- A literal at the end of the text goes on with the new one; all other pieces stay as they are.
    by_cases hlast : (∃ text, piece = .literal text) ∧ rest = []
    · obtain ⟨⟨text, rfl⟩, rfl⟩ := hlast
      cases hbegins with
      | @literal before _ hbefore =>
        have hclose : Closes (before ++ '\'' :: '\'' :: body) bs :=
          .single (hbefore.paired.append (.pair (paired_of_notMem hbody))) hbs
        have htext : '\'' :: (before ++ ['\'']) ++ quoted body bs =
            '\'' :: (before ++ '\'' :: '\'' :: body ++ '\'' :: bs) := by simp [quoted]
        rw [htext, (Begins.literal hclose).strip_eq, (Begins.literal hbefore).strip_eq, strip_nil]
        simp [Piece.kept, quoted]
    · have hmore : Begins (cs ++ quoted body bs) piece (rest ++ quoted body bs) :=
        hbegins.append has (stops_cons rfl) fun text htext hnil =>
          absurd ⟨⟨text, htext⟩, hnil⟩ hlast
      rw [hmore.strip_eq, hbegins.strip_eq, ih (has.after hbegins), List.append_assoc]

/-! ## Statements -/

/-- The statement that a text ends in. Nothing is dropped at its end, where it may go on. -/
def lastStatement (cs : List Char) : List Char :=
  Text.trimStart ((Text.split ';' cs).getLastD [])

/-- A semicolon ends the statement before it, so the last one is what stands behind it. -/
theorem lastStatement_append (h : ';' ∉ rest) (cs : List Char) :
    lastStatement (cs ++ ';' :: rest) = Text.trimStart rest := by
  rw [lastStatement, Text.split_append_separator, Text.split_of_notMem h, List.getLastD_concat]

theorem lastStatement_of_notMem (h : ';' ∉ cs) : lastStatement cs = Text.trimStart cs := by
  rw [lastStatement, Text.split_of_notMem h]
  rfl

/-- A text without semicolons that is not blank is one statement. -/
theorem statements_of_notMem (h : ';' ∉ cs) (hne : Text.trim cs ≠ []) :
    statements cs = [Text.trim cs] := by
  rw [statements, Text.split_of_notMem h, List.map_singleton, List.filter_cons_of_pos (by simp [hne])]
  rfl

/-- The blanks in the literal are not at the ends of the text, since the quotes stand around them.
-/
theorem trim_quoted (front body rest : List Char) :
    Text.trim (front ++ quoted body rest) =
      Text.trimStart front ++ quoted body (Text.trimEnd rest) := by
  have hstart : ∀ cs, Text.trimStart (cs ++ quoted body rest) =
      Text.trimStart cs ++ quoted body rest :=
    fun cs => Text.dropWhile_append_of_stops cs (stops_cons (by decide))
  have hend : ∀ cs, Text.trimEnd (cs ++ '\'' :: rest) = cs ++ '\'' :: Text.trimEnd rest := by
    intro cs
    have hquote : Stops isBlank ('\'' :: cs.reverse) := stops_cons (by decide)
    rw [Text.trimEnd, List.reverse_append, List.reverse_cons, List.append_assoc,
      List.singleton_append, Text.dropWhile_append_of_stops _ hquote]
    simp [Text.trimEnd]
  have hquoted : ∀ cs rest, cs ++ quoted body rest = (cs ++ '\'' :: body) ++ '\'' :: rest := by
    simp [quoted]
  rw [Text.trim, hstart, hquoted, hend, ← hquoted]

/-- Without semicolons, a text with a literal in it is one statement, which cannot be empty. -/
theorem statements_quoted (hfront : ';' ∉ front) (hbody : ';' ∉ body) (hrest : ';' ∉ rest) :
    statements (front ++ quoted body rest) =
      [Text.trimStart front ++ quoted body (Text.trimEnd rest)] := by
  have hone : ';' ∉ front ++ quoted body rest := by simp [quoted, hfront, hbody, hrest]
  have hne : Text.trim (front ++ quoted body rest) ≠ [] := by
    rw [trim_quoted]
    exact List.append_ne_nil_of_right_ne_nil _ (List.cons_ne_nil _ _)
  rw [statements_of_notMem hone hne, trim_quoted]

/-- A literal without semicolons stays within one statement. The cuts before and behind it do not
depend on what it holds, so that the parts can be named before the literal is. -/
theorem exists_statements_quoted (cs ds : List Char) :
    ∃ before v after, ∀ body, ';' ∉ body → statements (cs ++ quoted body ds) =
      before ++ (lastStatement cs ++ quoted body v) :: after := by
  -- First what comes behind the literal, for any text without semicolons in front of it.
  have hback : ∃ v after, ∀ front body, ';' ∉ front → ';' ∉ body →
      statements (front ++ quoted body ds) =
        (Text.trimStart front ++ quoted body v) :: after := by
    by_cases hds : ';' ∈ ds
    · obtain ⟨rest, more, rfl, hrest⟩ := List.eq_append_cons_of_mem hds
      refine ⟨Text.trimEnd rest, statements more, fun front body hfront hbody => ?_⟩
      have htext : front ++ quoted body (rest ++ ';' :: more) =
          (front ++ quoted body rest) ++ ';' :: more := by simp [quoted]
      rw [htext, statements_append, statements_quoted hfront hbody hrest]
      rfl
    · exact ⟨Text.trimEnd ds, [], fun front body hfront hbody =>
        statements_quoted hfront hbody hds⟩
  obtain ⟨v, after, hback⟩ := hback
  by_cases hcs : ';' ∈ cs
  · obtain ⟨full, last, hlast, rfl⟩ := Text.exists_cutLast? hcs
    refine ⟨statements full, v, after, fun body hbody => ?_⟩
    rw [List.append_assoc, List.cons_append, statements_append, hback last body hlast hbody,
      lastStatement_append hlast]
  · refine ⟨[], v, after, fun body hbody => ?_⟩
    rw [hback cs body hcs hbody, lastStatement_of_notMem hcs]
    rfl

/-! ## Recognisers in front of a quote -/

/-- The text `ds` goes on where `cs` ends, with a quote. -/
def GoesOn (rest cs ds : List Char) : Prop := ds = cs ++ '\'' :: rest

/-- A mark is found in the text as it was, unless it is the quote itself. -/
theorem GoesOn.character {mark : Char} (hmark : mark ≠ '\'') {ds : List Char}
    (h : GoesOn rest cs ds) :
    Option.Rel (GoesOn rest) (character mark cs) (character mark ds) := by
  cases h
  cases cs with
  | nil =>
    rw [List.nil_append, Script.character, Script.character, if_neg (Ne.symm hmark)]
    exact .none
  | cons c cs =>
    rw [List.cons_append, Script.character, Script.character]
    split
    · exact .some rfl
    · exact .none

theorem GoesOn.skipQuote {ds : List Char} (h : GoesOn rest cs ds) :
    GoesOn rest (skipQuote cs) (skipQuote ds) := by
  cases h
  cases cs with
  | nil => rfl
  | cons c cs =>
    rw [List.cons_append, Script.skipQuote, Script.skipQuote]
    split
    · rfl
    · rfl

/-- No recogniser passes a single quote, apart from the inside of a parenthesis. A quote ends every
word and every run of blanks, and it is none of the marks. -/
theorem respects_goesOn (rest : List Char) : Respects (GoesOn rest) Eq where
  -- A quote belongs to no word, so a keyword ends before it or is cut off by it.
  keyword {letters cs ds} hletters h := by
    cases h
    rw [keyword_append hletters (stops_cons (by decide))]
    cases Script.keyword letters cs with
    | none => exact .none
    | some left => exact .some rfl
  blanks {cs ds} h := by
    cases h
    cases cs with
    | nil => exact .none
    | cons c cs =>
      rw [List.cons_append, Script.blanks, Script.blanks]
      split
      · exact .some (Text.dropWhile_append_of_stops cs (stops_cons (by decide)))
      · exact .none
  skipBlanks {cs ds} h := by
    cases h
    exact Text.dropWhile_append_of_stops cs (stops_cons (by decide))
  mark {c cs ds} hc h := h.character (by rintro rfl; exact absurd hc (by decide))
  -- Neither is the quote one of those around a name, which are double.
  simpleName {cs ds} h := by
    have hquote := h.skipQuote
    have hstop : Stops isWord ('\'' :: rest) := stops_cons (by decide)
    have hword : (Script.skipQuote ds).takeWhile isWord = (Script.skipQuote cs).takeWhile isWord := by
      rw [hquote, Text.takeWhile_append_of_stops _ hstop]
    have hrest : GoesOn rest ((Script.skipQuote cs).dropWhile isWord)
        ((Script.skipQuote ds).dropWhile isWord) := by
      rw [hquote]
      exact Text.dropWhile_append_of_stops _ hstop
    simp only [Script.simpleName, hword]
    split
    · exact .none
    · exact .some ⟨rfl, hrest.skipQuote⟩

/-- The table that a statement declares is named before the first literal, and no literal can change
it. -/
theorem declaredName_quote (cs rest : List Char) :
    declaredName (cs ++ '\'' :: rest) = declaredName cs := by
  have hgoesOn : GoesOn rest cs (cs ++ '\'' :: rest) := rfl
  rw [eq_map_of_rel ((respects_goesOn rest).declaredName hgoesOn) fun _ _ h => h.symm]
  exact Option.map_id'

/-! ## Where foreign keys begin -/

/-- What follows each `FOREIGN KEY (` of a text. The keyword must begin a word: `inWord`
tells whether the character before `cs` belongs to one. -/
def keyOpenings (inWord : Bool) : List Char → List (List Char)
  | [] => []
  | c :: rest =>
    (if inWord then none else keyOpening (c :: rest)).toList ++ keyOpenings (isWord c) rest

theorem keyOpening_of_stops (h : Stops isWord rest) : keyOpening rest = none := by
  rw [keyOpening, spacedKeyword_eq_none (by decide) (by decide) h]
  rfl

/-- Where no word goes on, it does not matter whether there was one before. -/
theorem keyOpenings_of_stops (h : Stops isWord rest) (inWord : Bool) :
    keyOpenings inWord rest = keyOpenings false rest := by
  cases rest with
  | nil => rfl
  | cons c rest => rw [keyOpenings, keyOpenings, keyOpening_of_stops h, ite_self, ite_self]

/-- What is found in the rest of a text is found in the text. -/
theorem keyOpenings_tail_subset (inWord : Bool) (c : Char) (rest : List Char) :
    keyOpenings (isWord c) rest ⊆ keyOpenings inWord (c :: rest) := by
  rw [keyOpenings]
  exact List.subset_append_right _ _

/-- `rest` is what `cs` ends in, and no word runs into it from before. A search that goes on with
`rest` may then begin as if no word came before it. -/
def WordBound (cs rest : List Char) : Prop :=
  ∃ init c, cs = init ++ c :: rest ∧ (isWord c = false ∨ Stops isWord rest)

theorem WordBound.of_suffix {mid : List Char} (h : WordBound mid rest) (hmid : mid <:+ cs) :
    WordBound cs rest := by
  obtain ⟨init, c, rfl, hc⟩ := h
  obtain ⟨before, rfl⟩ := hmid
  exact ⟨before ++ init, c, (List.append_assoc _ _ _).symm, hc⟩

theorem WordBound.suffix (h : WordBound cs rest) : rest <:+ cs := by
  obtain ⟨init, c, rfl, -⟩ := h
  exact ⟨init ++ [c], by simp⟩

/-- At such a place the search finds nothing that it would not find from the beginning. -/
theorem WordBound.keyOpenings_subset (h : WordBound cs rest) (inWord : Bool) :
    keyOpenings false rest ⊆ keyOpenings inWord cs := by
  obtain ⟨init, c, rfl, hbound⟩ := h
  have hc : keyOpenings (isWord c) rest = keyOpenings false rest := by
    rcases hbound with hc | hrest
    · rw [hc]
    · exact keyOpenings_of_stops hrest _
  rw [← hc]
  induction init generalizing inWord with
  | nil => exact keyOpenings_tail_subset inWord c rest
  | cons d init ih => exact List.Subset.trans (ih _) (keyOpenings_tail_subset inWord d _)

theorem skipQuote_suffix (cs : List Char) : skipQuote cs <:+ cs := by
  cases cs with
  | nil => exact List.suffix_rfl
  | cons c cs =>
    rw [skipQuote]
    split
    · exact List.suffix_cons c cs
    · exact List.suffix_rfl

theorem skipBlanks_suffix (cs : List Char) : skipBlanks cs <:+ cs := List.dropWhile_suffix _

theorem character_suffix {c : Char} (h : character c cs = some rest) : rest <:+ cs := by
  cases cs with
  | nil => cases h
  | cons d cs =>
    rw [character] at h
    split at h
    · cases h
      exact List.suffix_cons d _
    · cases h

/-- Recognisers only take from the front, so what they leave is a suffix of what they were given. -/
theorem spacedKeyword_suffix {word : String} (h : spacedKeyword word cs = some rest) :
    rest <:+ cs := by
  obtain ⟨mid, hkeyword, hblanks⟩ := Option.bind_eq_some_iff.1 h
  refine List.IsSuffix.trans ?_ (keyword_suffix hkeyword)
  cases mid with
  | nil => cases hblanks
  | cons c mid =>
    rw [blanks] at hblanks
    split at hblanks
    · cases hblanks
      exact (skipBlanks_suffix mid).trans (List.suffix_cons c mid)
    · cases hblanks

/-- A name takes its word whole, or a quote stands behind it. In either case no part of a word is
left for the search. -/
theorem wordBound_of_simpleName {name : List Char} (h : simpleName cs = some (name, rest)) :
    WordBound cs rest := by
  simp only [simpleName] at h
  refine WordBound.of_suffix ?_ (skipQuote_suffix cs)
  generalize skipQuote cs = word at h ⊢
  split at h
  · cases h
  · next hne =>
    obtain ⟨-, rfl⟩ := Prod.mk.inj (Option.some.inj h)
    have hstop : Stops isWord (word.dropWhile isWord) := Text.stops_dropWhile word
    have hword : word.takeWhile isWord ++ word.dropWhile isWord = word :=
      List.takeWhile_append_dropWhile
    generalize word.takeWhile isWord = run at hne hword
    generalize word.dropWhile isWord = left at hword hstop ⊢
    subst hword
    -- A quote behind the name is taken with it; otherwise the name ends where its word does.
    by_cases hquote : ∃ after, left = '"' :: after
    · obtain ⟨after, rfl⟩ := hquote
      exact ⟨run, '"', by rw [skipQuote, if_pos rfl], .inl (by decide)⟩
    · have hskip : skipQuote left = left := by
        cases left with
        | nil => rfl
        | cons d left => rw [skipQuote, if_neg fun hd => hquote ⟨left, by rw [hd]⟩]
      rw [hskip]
      rcases List.eq_nil_or_concat run with rfl | ⟨init, c, rfl⟩
      · exact absurd rfl hne
      · exact ⟨init, c, by simp, .inr hstop⟩

theorem wordBound_of_tableName {name : List Char} (h : tableName cs = some (name, rest)) :
    WordBound cs rest := by
  rcases Option.or_eq_some_iff.1 h with h | ⟨-, h⟩
  · obtain ⟨mid, hqualifier, hname⟩ := Option.bind_eq_some_iff.1 h
    obtain ⟨⟨schema, after⟩, hschema, hpoint⟩ := Option.bind_eq_some_iff.1 hqualifier
    obtain ⟨tail, hmark, rfl⟩ := Option.map_eq_some_iff.1 hpoint
    have hafter := (wordBound_of_simpleName hschema).suffix
    have htail := (character_suffix hmark).trans (skipBlanks_suffix after)
    exact (wordBound_of_simpleName hname).of_suffix
      ((skipBlanks_suffix tail).trans (htail.trans hafter))
  · exact wordBound_of_simpleName h

/-- The search for foreign keys goes on where no word was cut, since a foreign key ends with the
name of a table. -/
theorem wordBound_of_foreignKey {name : List Char} (h : foreignKey cs = some (name, rest)) :
    WordBound cs rest := by
  rw [foreignKey_eq] at h
  obtain ⟨inside, hopening, htarget⟩ := Option.bind_eq_some_iff.1 h
  obtain ⟨r₁, hkey, hopen⟩ := Option.bind_eq_some_iff.1 hopening
  obtain ⟨r₂, hforeign, hkey⟩ := Option.bind_eq_some_iff.1 hkey
  obtain ⟨r₃, hreferences, hname⟩ := Option.bind_eq_some_iff.1 htarget
  obtain ⟨r₄, hclose, hreferences⟩ := Option.bind_eq_some_iff.1 hreferences
  have h₁ : r₁ <:+ cs := (keyword_suffix hkey).trans (spacedKeyword_suffix hforeign)
  have hinside : inside <:+ cs := (character_suffix hopen).trans ((skipBlanks_suffix r₁).trans h₁)
  have h₄ : r₄ <:+ cs := (character_suffix hclose).trans ((List.dropWhile_suffix _).trans hinside)
  have h₃ : r₃ <:+ cs := (spacedKeyword_suffix hreferences).trans ((skipBlanks_suffix r₄).trans h₄)
  exact (wordBound_of_tableName hname).of_suffix h₃

/-! ## Foreign keys around a literal -/

/-- A text that neither begins a foreign key nor, quoted at the end of `front`, closes the
parenthesis of one. These are the two ways in which a literal can change the references of a
statement. -/
structure AddsNoKey (inWord : Bool) (front body : List Char) : Prop where
  opening : keyOpenings false body = []
  closing : (∃ inside ∈ keyOpenings inWord front, ')' ∉ inside) → ')' ∉ body

/-- Fewer openings before the literal ask less of it. -/
theorem AddsNoKey.of_subset {w w' : Bool} {front' : List Char} (h : AddsNoKey w front body)
    (hsub : keyOpenings w' front' ⊆ keyOpenings w front) : AddsNoKey w' front' body where
  opening := h.opening
  closing := fun ⟨inside, hmem, hopen⟩ => h.closing ⟨inside, hsub hmem, hopen⟩

/-- An opening stands before the literal, whatever the literal holds. -/
theorem keyOpening_quote (cs rest : List Char) :
    keyOpening (cs ++ '\'' :: rest) = (keyOpening cs).map (· ++ '\'' :: rest) := by
  have hgoesOn : GoesOn rest cs (cs ++ '\'' :: rest) := rfl
  exact eq_map_of_rel ((respects_goesOn rest).keyOpening hgoesOn) fun _ _ h => h

/-- Where no foreign key opens before the literal, none is found there. -/
theorem foreignKey_quote_eq_none (h : keyOpening cs = none) (rest : List Char) :
    foreignKey (cs ++ '\'' :: rest) = none := by
  rw [foreignKey_eq, keyOpening_quote, h]
  rfl

/-- A parenthesis that is closed before the literal is closed where it was. -/
theorem keyTarget_quote {inside : List Char} (h : ')' ∈ inside) (rest : List Char) :
    keyTarget (inside ++ '\'' :: rest) =
      (keyTarget inside).map fun found => (found.1, found.2 ++ '\'' :: rest) := by
  obtain ⟨columns, after, rfl, hcolumns⟩ := List.eq_append_cons_of_mem h
  have hclose : Option.Rel (GoesOn rest)
      (character ')' ((columns ++ ')' :: after).dropWhile (· != ')')))
      (character ')' ((columns ++ ')' :: after ++ '\'' :: rest).dropWhile (· != ')'))) := by
    rw [List.append_assoc, List.cons_append, Text.dropWhile_ne_append hcolumns,
      Text.dropWhile_ne_append hcolumns, character, if_pos rfl, character, if_pos rfl]
    exact .some rfl
  refine eq_map_of_rel ((respects_goesOn rest).keyTarget hclose) ?_
  rintro ⟨name, left⟩ ⟨name', left'⟩ ⟨rfl, rfl⟩
  rfl

/-- A parenthesis that is still open before a literal is closed behind it. -/
theorem keyTarget_quoted {inside : List Char} (hinside : ')' ∉ inside) (hbody : ')' ∉ body)
    (rest : List Char) : keyTarget (inside ++ quoted body rest) = keyTarget rest := by
  have htext : inside ++ quoted body rest = (inside ++ '\'' :: (body ++ ['\''])) ++ rest := by
    simp [quoted]
  have hpassed : ')' ∉ inside ++ '\'' :: (body ++ ['\'']) := by simp [hinside, hbody]
  rw [keyTarget, htext, Text.dropWhile_ne_append_of_notMem hpassed, keyTarget]

/-- A foreign key that begins before a literal either ends before it, too, or is the same for an
empty literal. In the second case its parenthesis is open at the literal, and closed behind it. -/
theorem foreignKey_quoted (h : AddsNoKey false cs body) (rest : List Char) :
    foreignKey (cs ++ quoted body rest) = foreignKey (cs ++ quoted [] rest) ∨
      ∃ name after, foreignKey cs = some (name, after) ∧
        ∀ body, foreignKey (cs ++ quoted body rest) = some (name, after ++ quoted body rest) := by
  cases hopening : keyOpening cs with
  | none =>
    left
    rw [quoted, quoted, foreignKey_quote_eq_none hopening, foreignKey_quote_eq_none hopening]
  | some inside =>
    have hkey : ∀ body, foreignKey (cs ++ quoted body rest) =
        keyTarget (inside ++ quoted body rest) := by
      intro body
      rw [foreignKey_eq, quoted, keyOpening_quote, hopening]
      rfl
    -- The parenthesis of the key is closed before the literal or it is still open there.
    by_cases hclosed : ')' ∈ inside
    · cases htarget : keyTarget inside with
      | none =>
        left
        rw [hkey, hkey, quoted, quoted, keyTarget_quote hclosed, keyTarget_quote hclosed, htarget]
        rfl
      | some found =>
        right
        refine ⟨found.1, found.2, by rw [foreignKey_eq, hopening]; exact htarget, fun body => ?_⟩
        rw [hkey, quoted, keyTarget_quote hclosed, htarget]
        rfl
    · -- The parenthesis is closed behind the literal, wherever that is.
      left
      have hmem : inside ∈ keyOpenings false cs := by
        cases cs with
        | nil => cases hopening
        | cons c cs =>
          rw [keyOpenings, if_neg Bool.false_ne_true, hopening]
          exact List.mem_cons_self
      have hbody := h.closing ⟨inside, hmem, hclosed⟩
      rw [hkey, hkey, keyTarget_quoted hclosed hbody, keyTarget_quoted hclosed List.not_mem_nil]

/-- A literal in which no foreign key begins is passed over. By induction on its characters. -/
theorem references_body {inWord : Bool} (h : keyOpenings inWord body = []) (rest : List Char) :
    references inWord (body ++ '\'' :: rest) = references false rest := by
  induction body generalizing inWord with
  | nil => exact references_mark (by decide) inWord
  | cons c body ih =>
    rw [keyOpenings, List.append_eq_nil_iff, Option.toList_eq_nil_iff] at h
    obtain ⟨hopening, hbody⟩ := h
    cases inWord with
    | true => rw [List.cons_append, references_inWord, ih hbody]
    | false =>
      have hnone := foreignKey_quote_eq_none hopening rest
      rw [List.cons_append] at hnone ⊢
      rw [references_of_none hnone, ih hbody]

/-- A literal that adds no foreign key is as good as an empty one. The induction needs the claim for
every front that is left, hence `of_subset`. -/
theorem references_quoted {inWord : Bool} (h : AddsNoKey inWord front body) (rest : List Char) :
    references inWord (front ++ quoted body rest) = references inWord (front ++ quoted [] rest) := by
  -- On the length, because the search goes on behind a foreign key that it has found.
  induction hlength : front.length using Nat.strongRecOn generalizing front inWord with
  | ind n ih =>
    cases front with
    | nil =>
      have hquote : isWord '\'' = false := by decide
      rw [List.nil_append, List.nil_append, quoted, quoted, references_mark hquote,
        references_mark hquote, references_body h.opening, references_body rfl]
    | cons c front =>
      have hlt : front.length < n := by rw [← hlength]; exact Nat.lt_succ_self _
      have htail := ih _ hlt (h.of_subset (keyOpenings_tail_subset inWord c front)) rfl
      cases inWord with
      | true => rw [List.cons_append, List.cons_append, references_inWord, references_inWord, htail]
      | false =>
        rcases foreignKey_quoted h rest with hsame | ⟨name, after, hkey, hboth⟩
        · cases hfound : foreignKey (c :: front ++ quoted [] rest) with
          | none =>
            have hnone := hsame.trans hfound
            rw [List.cons_append] at hnone hfound ⊢
            rw [List.cons_append, references_of_none hnone, references_of_none hfound, htail]
          | some found => rw [references_of_some (hsame.trans hfound), references_of_some hfound]
        -- A key that ends before the literal is the same in both texts, and the search goes on
        -- behind it.
        · have hafter : after.length < n := by rw [← hlength]; exact length_foreignKey_lt hkey
          have hbound := wordBound_of_foreignKey hkey
          rw [references_of_some (hboth body), references_of_some (hboth []),
            ih _ hafter (h.of_subset (hbound.keyOpenings_subset false)) rfl]

/-! ## Facts -/

/-- The name in the fact does not depend on the literal at all, since it is found before the first
quote. -/
theorem statementFact_quoted_name (front body rest : List Char) :
    (statementFact (front ++ quoted body rest)).map TableDependency.name =
      (declaredName front).map statementFact.lowered := by
  rw [statementFact, quoted, declaredName_quote, Option.map_map]
  rfl

/-- Nor do the references, if the literal adds no foreign key. A statement that declares no table
has no fact, and then nothing is asked of the literal. -/
theorem statementFact_quoted (h : (declaredName front).isSome → AddsNoKey false front body)
    (rest : List Char) :
    statementFact (front ++ quoted body rest) = statementFact (front ++ quoted [] rest) := by
  have hname : ∀ body, declaredName (front ++ quoted body rest) = declaredName front :=
    fun body => declaredName_quote front (body ++ '\'' :: rest)
  rw [statementFact, statementFact, hname, hname]
  cases hdeclared : declaredName front with
  | none => rfl
  | some name =>
    rw [references_quoted (h (by rw [hdeclared]; rfl))]

/-! ## Scripts with a literal in them -/

/-- What the literal between `a` and `b` holds makes a difference to the facts. This can be decided,
since all of it is computed from the texts. -/
structure Matters (a b b₁ b₂ : String) : Prop where
  closed : Closed a.toList
  after : Stops (· == '\'') b.toList
  first : '\'' ∉ b₁.toList
  second : '\'' ∉ b₂.toList
  facts : extractDependencies (a ++ "'" ++ b₁ ++ "'" ++ b) ≠
    extractDependencies (a ++ "'" ++ b₂ ++ "'" ++ b)

instance {a b b₁ b₂ : String} : Decidable (Matters a b b₁ b₂) :=
  decidable_of_iff (_ ∧ _ ∧ _ ∧ _ ∧ _)
    ⟨fun ⟨hclosed, hafter, hfirst, hsecond, hfacts⟩ => ⟨hclosed, hafter, hfirst, hsecond, hfacts⟩,
      fun h => ⟨h.closed, h.after, h.first, h.second, h.facts⟩⟩

/-- A foreign key in a literal counts; a table counts after a semicolon; and a parenthesis in a
literal closes the one that a foreign key has opened before it. The recognisers do not know of
literals. -/
theorem literal_text_matters :
    Matters "CREATE TABLE notes (body TEXT DEFAULT " ")" "none"
        "foreign key (a) references ghosts" ∧
      Matters "CREATE TABLE notes (body TEXT DEFAULT " ")" "none" "; create table ghosts (" ∧
      Matters "CREATE TABLE notes (FOREIGN KEY (user_id, " ") REFERENCES users)" "none" ")" := by
  decide +kernel

/-- The statements of a script with a literal in it, for all that the literal may hold. Only the
statement around the literal shows it. -/
theorem exists_statements_script {a b : String} (ha : Closed a.toList)
    (hb : Stops (· == '\'') b.toList) :
    ∃ before v after, ∀ text : String, '\'' ∉ text.toList → ';' ∉ text.toList →
      statements (strip (a ++ "'" ++ text ++ "'" ++ b).toList) =
        before ++ (lastStatement (strip a.toList) ++ quoted text.toList v) :: after := by
  obtain ⟨before, v, after, hstatements⟩ :=
    exists_statements_quoted (strip a.toList) (strip b.toList)
  refine ⟨before, v, after, fun text hquote hsemicolon => ?_⟩
  have hscript : (a ++ "'" ++ text ++ "'" ++ b).toList =
      a.toList ++ quoted text.toList b.toList := by simp [quoted]
  rw [hscript, ha.strip_quoted hquote hb, hstatements _ hsemicolon]

theorem filterMap_around {α β : Type} (f : α → Option β) (before after : List α) (x : α) :
    (before ++ x :: after).filterMap f =
      before.filterMap f ++ ((f x).toList ++ after.filterMap f) := by
  rw [List.filterMap_append, List.filterMap_cons]
  cases f x with
  | none => rfl
  | some y => rfl

/-- Behind a closed script, a literal without semicolons changes neither the statements around it
nor the tables that they declare, and it changes no dependency of the table around it as long as it
adds no foreign key. These conditions are the ones that the examples above break. -/
theorem literals_are_data {a b b₁ b₂ : String} (ha : Closed a.toList)
    (hb : Stops (· == '\'') b.toList) (h₁ : '\'' ∉ b₁.toList ∧ ';' ∉ b₁.toList)
    (h₂ : '\'' ∉ b₂.toList ∧ ';' ∉ b₂.toList) :
    let script (text : String) := a ++ "'" ++ text ++ "'" ++ b
    let statement := lastStatement (strip a.toList)
    (∃ before u v after, ∀ text ∈ [b₁, b₂], splitStatements (stripComments (script text)) =
        before ++ (u ++ "'" ++ text ++ "'" ++ v) :: after) ∧
      (extractDependencies (script b₁)).map TableDependency.name =
        (extractDependencies (script b₂)).map TableDependency.name ∧
      (((declaredName statement).isSome →
          ∀ text ∈ [b₁, b₂], AddsNoKey false statement text.toList) →
        extractDependencies (script b₁) = extractDependencies (script b₂)) := by
  intro script statement
  obtain ⟨before, v, after, hscript⟩ := exists_statements_script ha hb
  have hstatements : ∀ text ∈ [b₁, b₂], statements (strip (script text).toList) =
      before ++ (statement ++ quoted text.toList v) :: after := by
    intro text htext
    simp only [List.mem_cons, List.not_mem_nil, or_false] at htext
    rcases htext with rfl | rfl
    · exact hscript text h₁.1 h₁.2
    · exact hscript text h₂.1 h₂.2
  have hb₁ : b₁ ∈ [b₁, b₂] := List.mem_cons_self
  have hb₂ : b₂ ∈ [b₁, b₂] := List.mem_cons_of_mem _ List.mem_cons_self
  have hfacts : ∀ text ∈ [b₁, b₂], extractDependencies (script text) =
      before.filterMap statementFact ++
        ((statementFact (statement ++ quoted text.toList v)).toList ++
          after.filterMap statementFact) := by
    intro text htext
    rw [extractDependencies, hstatements text htext, filterMap_around]
  -- What is issued, the names of the tables, and all of the facts.
  refine ⟨⟨before.map String.ofList, String.ofList statement, String.ofList v,
    after.map String.ofList, fun text htext => ?_⟩, ?_, fun hadds => ?_⟩
  · rw [splitStatements_stripComments, hstatements text htext, List.map_append, List.map_cons,
      ← String.ofList_toList (s := text)]
    simp [quoted, String.append_assoc]
  · rw [hfacts b₁ hb₁, hfacts b₂ hb₂]
    simp only [List.map_append, ← Option.toList_map, statementFact_quoted_name]
  · -- Both literals are as good as an empty one.
    have hempty : ∀ text ∈ [b₁, b₂], statementFact (statement ++ quoted text.toList v) =
        statementFact (statement ++ quoted [] v) :=
      fun text htext => statementFact_quoted (fun hdeclared => hadds hdeclared text htext) v
    rw [hfacts b₁ hb₁, hfacts b₂ hb₂, hempty b₁ hb₁, hempty b₂ hb₂]

/-- Beginnings of a comment and of a table in a literal, and a second foreign key behind it. -/
theorem literals_are_data_notes :
    let a := "CREATE TABLE users (id INT); CREATE TABLE notes (body TEXT DEFAULT "
    let b := ", FOREIGN KEY (id) REFERENCES users)"
    let b₁ := "/* create table ghosts) -- references key"
    let b₂ := "none"
    let script (text : String) := a ++ "'" ++ text ++ "'" ++ b
    let statement := lastStatement (strip a.toList)
    Closed a.toList ∧ Stops (· == '\'') b.toList ∧
      ('\'' ∉ b₁.toList ∧ ';' ∉ b₁.toList) ∧ ('\'' ∉ b₂.toList ∧ ';' ∉ b₂.toList) ∧
      (∀ text ∈ [b₁, b₂], AddsNoKey false statement text.toList) ∧
      (∃ before u v after, ∀ text ∈ [b₁, b₂], splitStatements (stripComments (script text)) =
        before ++ (u ++ "'" ++ text ++ "'" ++ v) :: after) ∧
      (extractDependencies (script b₁)).map TableDependency.name =
        (extractDependencies (script b₂)).map TableDependency.name ∧
      extractDependencies (script b₁) = extractDependencies (script b₂) := by
  intro a b b₁ b₂ script statement
  have ha : Closed a.toList := by decide +kernel
  have hb : Stops (· == '\'') b.toList := by decide
  have h₁ : '\'' ∉ b₁.toList ∧ ';' ∉ b₁.toList := by decide +kernel
  have h₂ : '\'' ∉ b₂.toList ∧ ';' ∉ b₂.toList := by decide +kernel
  -- No foreign key is open where the literal begins, so that nothing in it could close one.
  have hopen : keyOpenings false statement = [] := by decide +kernel
  have hadds : ∀ text ∈ [b₁, b₂], AddsNoKey false statement text.toList := by
    intro text htext
    refine ⟨?_, fun ⟨inside, hmem, _⟩ => ?_⟩
    · have hall : ∀ text ∈ [b₁, b₂], keyOpenings false text.toList = [] := by decide +kernel
      exact hall text htext
    · rw [hopen] at hmem
      cases hmem
  have hdata := literals_are_data ha hb h₁ h₂
  exact ⟨ha, hb, h₁, h₂, hadds, hdata.1, hdata.2.1, hdata.2.2 fun _ => hadds⟩

end SchemaSeed.Script
