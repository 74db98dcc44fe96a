import SchemaSeed.Proofs.Script.Rendering
import SchemaSeed.Proofs.Text.Stops

/-!
# Recognising what was written

Each recogniser of declarations, applied to the rendered text of the clause that it is made
for, finds the clause and leaves what follows it; applied to another clause it finds
nothing. The names are the point where this could go wrong, since a name may spell any
keyword: what follows a name shows that it is none. The main statement is
`declaredName_append`, where anything that ends a name may follow it.
-/

namespace SchemaSeed.Script

open Text (isBlank isWord ne_of_class Stops stops_cons stops_append stops_append_of_ne_nil
  dropWhile_append_stops takeWhile_append_stops)

variable {word other : String} {rest : List Char}

/-! ## Blanks -/

/-- No word goes on into blanks, and so none does into what follows them. -/
theorem Blanks.stops_isWord (b : Blanks) (h : Stops isWord rest) :
    Stops isWord (b.text ++ rest) :=
  stops_append (fun c hc => isWord_of_isBlank (b.blank c hc)) h

theorem Gap.stops_isWord (g : Gap) : Stops isWord (g.text ++ rest) :=
  stops_append_of_ne_nil (fun c hc => isWord_of_isBlank (g.blank c hc)) g.ne_nil

/-- All of the blanks are skipped, and nothing else. -/
theorem skipBlanks_append (b : Blanks) (h : Stops isBlank rest) :
    skipBlanks (b.text ++ rest) = rest :=
  dropWhile_append_stops b.blank h

theorem blanks_eq_none (h : Stops isBlank rest) : blanks rest = none := by
  cases rest with
  | nil => rfl
  | cons c tail => simp [blanks, h c rfl]

/-- Blanks that must be there are found where there is a gap. -/
theorem blanks_append (g : Gap) (h : Stops isBlank rest) : blanks (g.text ++ rest) = some rest := by
  obtain ⟨⟨text, hblank⟩, hne⟩ := g
  cases text with
  | nil => exact absurd rfl hne
  | cons c text =>
    have hskip := skipBlanks_append ⟨text, fun d hd => hblank d (List.mem_cons_of_mem _ hd)⟩ h
    simp only [List.cons_append, blanks, hblank c List.mem_cons_self, if_true, hskip]

theorem blanks_cases (cs : List Char) : blanks cs = some (skipBlanks cs) ∨ blanks cs = none := by
  cases cs with
  | nil => exact .inr rfl
  | cons c cs =>
    cases hc : isBlank c with
    | true => exact .inl (by simp [blanks, skipBlanks, hc])
    | false => exact .inr (by simp [blanks, hc])

/-- Blanks that need not be there are found where there are some. For an empty list of them, the
search fails. -/
theorem blanks_append_cases (b : Blanks) (h : Stops isBlank rest) :
    blanks (b.text ++ rest) = some rest ∨ blanks (b.text ++ rest) = none := by
  have hcases := blanks_cases (b.text ++ rest)
  rwa [skipBlanks_append b h] at hcases

/-! ## Keywords -/

theorem isWord_of_isCaseOf {k c : Char} (hk : k.isLower = true) (h : isCaseOf k c = true) :
    isWord c = true := by
  simp only [isCaseOf, Bool.or_eq_true, Bool.and_eq_true, beq_iff_eq] at h
  rcases h with (rfl | ⟨-, rfl⟩) | ⟨-, rfl⟩
  · exact isWord_of_toLower hk
  · decide +kernel
  · decide +kernel

theorem keyword_suffix {letters cs : List Char} (h : keyword letters cs = some rest) :
    rest <:+ cs := by
  fun_induction keyword letters cs with
  | case1 => cases h; exact List.suffix_rfl
  | case2 => cases h
  | case3 _ _ _ _ _ ih => exact (ih h).trans (List.suffix_cons _ _)
  | case4 => cases h

/-- A keyword does not reach beyond the word that it is looked for in. Hence the recogniser needs no
word boundary after the keyword: what must follow it decides. -/
theorem keyword_append {letters t : List Char} (hletters : ∀ k ∈ letters, k.isLower = true)
    (hrest : Stops isWord rest) :
    keyword letters (t ++ rest) = (keyword letters t).map (· ++ rest) := by
  -- The keyword is compared letter by letter, and the text ends before it or after it.
  induction letters generalizing t with
  | nil => rfl
  | cons k letters ih =>
    cases t with
    | nil =>
      cases rest with
      | nil => rfl
      | cons c tail =>
        have hk : isCaseOf k c = false := by
          rw [Bool.eq_false_iff]
          intro hcase
          have hword := isWord_of_isCaseOf (hletters k List.mem_cons_self) hcase
          rw [hrest c rfl] at hword
          cases hword
        simp [keyword, hk]
    | cons c t =>
      have hstep := ih (t := t) fun k hk => hletters k (List.mem_cons_of_mem _ hk)
      by_cases hk : isCaseOf k c = true
      · simp only [List.cons_append, keyword, hk, if_true, hstep]
      · simp [keyword, hk]

/-- A word that spells the keyword in any case is found. -/
theorem keyword_of_spells {letters t : List Char} (h : t.map Char.toLower = letters) :
    keyword letters (t ++ rest) = some rest := by
  induction t generalizing letters with
  | nil => subst h; rfl
  | cons c t ih =>
    subst h
    have hc : isCaseOf c.toLower c = true := by simp [isCaseOf]
    simp only [List.map_cons, List.cons_append, keyword, hc, if_true]
    exact ih rfl

/-- Letters of ASCII spell one keyword only. The long s and the Kelvin sign, which count as letters
of keywords, are excluded by `ht`. -/
theorem spells_of_keyword {letters t : List Char} (ht : ∀ c ∈ t, c.toLower.isLower = true)
    (h : keyword letters t = some []) : t.map Char.toLower = letters := by
  fun_induction keyword letters t with
  | case1 => cases h; rfl
  | case2 => cases h
  | case3 k letters c t hk ih =>
    have hc : c.toLower = k := by
      simp only [isCaseOf, Bool.or_eq_true, Bool.and_eq_true, beq_iff_eq] at hk
      have hlower := ht c List.mem_cons_self
      rcases hk with (hk | ⟨-, rfl⟩) | ⟨-, rfl⟩
      · exact hk
      · exact absurd hlower (by decide)
      · exact absurd hlower (by decide)
    rw [List.map_cons, hc, ih (fun d hd => ht d (List.mem_cons_of_mem _ hd)) h]
  | case4 => cases h

namespace Keyword

theorem keyword_text (k : Keyword word) : keyword word.toList (k.text ++ rest) = some rest :=
  keyword_of_spells k.spells

theorem keyword_ne (k : Keyword other) (hne : word ≠ other) : keyword word.toList k.text ≠ some [] := by
  intro h
  apply hne
  rw [← String.toList_inj, ← k.spells]
  refine (spells_of_keyword (fun c hc => ?_) h).symm
  apply k.letters
  rw [← k.spells]
  exact List.mem_map_of_mem hc

end Keyword

/-- A keyword and blanks, looked for where a word begins: the word must be the keyword, and not only
begin with it. -/
theorem spacedKeyword_word {t : List Char} (hword : IsSmall word)
    (ht : ∀ c ∈ t, isWord c = true) (hrest : Stops isWord rest) :
    spacedKeyword word (t ++ rest) =
      if keyword word.toList t = some [] then blanks rest else none := by
  rw [spacedKeyword, keyword_append hword hrest]
  cases h : keyword word.toList t with
  | none => rfl
  | some left =>
    cases left with
    | nil => rfl
    | cons c left =>
      have hc : isWord c = true := ht c ((keyword_suffix h).subset List.mem_cons_self)
      have hblanks : blanks (c :: left ++ rest) = none :=
        blanks_eq_none (stops_cons (isBlank_of_isWord hc))
      simpa using hblanks

/-- No keyword begins with a character that is not of a word. -/
theorem spacedKeyword_eq_none (hword : IsSmall word)
    (hne : word.toList ≠ []) (hrest : Stops isWord rest) : spacedKeyword word rest = none := by
  have h := spacedKeyword_word (t := []) hword (fun _ h => nomatch h) hrest
  have hkeyword : keyword word.toList [] ≠ some [] := by
    cases hletters : word.toList with
    | nil => exact absurd hletters hne
    | cons => simp [keyword]
  rwa [List.nil_append, if_neg hkeyword] at h

theorem Keyword.text_ne_nil (k : Keyword word) : k.text ≠ [] := by
  intro h
  apply k.ne_nil
  rw [← k.spells, h]
  rfl

theorem stops_isBlank_word {t : List Char} (ht : ∀ c ∈ t, isWord c = true) (hne : t ≠ []) :
    Stops isBlank (t ++ rest) :=
  stops_append_of_ne_nil (fun c hc => isBlank_of_isWord (ht c hc)) hne

namespace SpacedKeyword

theorem recognised (k : SpacedKeyword word) (h : Stops isBlank rest) :
    spacedKeyword word (k.text ++ rest) = some rest := by
  rw [text, List.append_assoc, spacedKeyword, k.keyword.keyword_text]
  exact blanks_append k.gap h

theorem not_recognised (k : SpacedKeyword other) (word : String) (hne : word ≠ other)
    (hword : IsSmall word) : spacedKeyword word (k.text ++ rest) = none := by
  rw [text, List.append_assoc, spacedKeyword_word hword (fun c hc => k.keyword.isWord_of_mem hc)
    k.gap.stops_isWord, if_neg (k.keyword.keyword_ne hne)]

theorem stops_isBlank (k : SpacedKeyword word) : Stops isBlank (k.text ++ rest) := by
  rw [text, List.append_assoc]
  exact stops_isBlank_word (fun c hc => k.keyword.isWord_of_mem hc) k.keyword.text_ne_nil

end SpacedKeyword

/-! ## Names -/

/-- What may follow a name: no character of a word, no quote, and no point, not even after blanks.
With a point, the name would be that of a schema. -/
structure EndsName (rest : List Char) : Prop where
  word : Stops isWord rest
  quote : Stops (· == '"') rest
  point : Stops (· == '.') (skipBlanks rest)

theorem Blanks.beq_eq_false (b : Blanks) {c d : Char} (hd : isBlank d = false)
    (hc : c ∈ b.text) : (c == d) = false :=
  beq_eq_false_iff_ne.2 (ne_of_class (b.blank c hc) hd)

/-- Blanks and a mark end a name, unless the mark is a point or a quote. Parentheses and commas are
such marks. -/
theorem endsName_mark (b : Blanks) {c : Char} (hword : isWord c = false) (hblank : isBlank c = false)
    (hquote : c ≠ '"') (hpoint : c ≠ '.') : EndsName (b.text ++ c :: rest) where
  word := b.stops_isWord (stops_cons hword)
  quote := stops_append (fun _ => b.beq_eq_false (by decide))
    (stops_cons (by simpa using hquote))
  point := by
    rw [skipBlanks_append b (stops_cons hblank)]
    exact stops_cons (by simpa using hpoint)

namespace Identifier

/-- A name begins with a word character or a quote. -/
theorem stops_isBlank (i : Identifier) : Stops isBlank (i.text ++ rest) := by
  unfold text
  split
  · exact stops_cons (by decide)
  · exact stops_isBlank_word i.word.word i.word.ne_nil

/-- A name is found with its quotes or without, and it is the word between them. -/
theorem simpleName_text (i : Identifier) (hword : Stops isWord rest)
    (hquote : Stops (· == '"') rest) : simpleName (i.text ++ rest) = some (i.word.text, rest) := by
  have hskip : ∀ {cs}, Stops (· == '"') cs → skipQuote cs = cs := by
    intro cs h
    cases cs with
    | nil => rfl
    | cons c cs =>
      have hc : c ≠ '"' := by simpa using h c rfl
      rw [skipQuote, if_neg hc]
  have hne : i.word.text.isEmpty = false := by simpa using i.word.ne_nil
  unfold text
  -- With quotes, the word ends at the second one; without, where the next character is of no word.
  split
  · have hstop : Stops isWord ('"' :: rest) := stops_cons (by decide)
    simp only [simpleName, List.cons_append, List.append_assoc, skipQuote, if_true,
      List.nil_append, takeWhile_append_stops i.word.word hstop,
      dropWhile_append_stops i.word.word hstop, hne, Bool.false_eq_true, if_false]
  · have hopen : Stops (· == '"') (i.word.text ++ rest) := by
      refine stops_append_of_ne_nil (fun c hc => ?_) i.word.ne_nil
      rw [beq_eq_false_iff_ne]
      rintro rfl
      exact absurd (i.word.word _ hc) (by decide)
    simp only [simpleName, hskip hopen, takeWhile_append_stops i.word.word hword,
      dropWhile_append_stops i.word.word hword, hskip hquote, hne, Bool.false_eq_true, if_false]

end Identifier

/-- A schema is found with the point behind it, around which there may be blanks. -/
theorem qualifier_text (q : Qualifier) (h : Stops isBlank rest) :
    qualifier (q.text ++ rest) = some rest := by
  have hpoint : Stops isWord ('.' :: (q.afterPoint.text ++ rest)) := stops_cons (by decide)
  have hname := q.schema.simpleName_text (q.beforePoint.stops_isWord hpoint)
    (stops_append (fun _ => q.beforePoint.beq_eq_false (by decide))
      (stops_cons (by decide)))
  have htext : q.text ++ rest =
      q.schema.text ++ (q.beforePoint.text ++ '.' :: (q.afterPoint.text ++ rest)) := by
    simp [Qualifier.text]
  rw [htext, qualifier, hname, Option.bind_some]
  dsimp only
  rw [skipBlanks_append q.beforePoint (stops_cons (by decide))]
  simp [character, skipBlanks_append q.afterPoint h]

/-- A name that no point follows is not taken for a schema. -/
theorem qualifier_identifier (i : Identifier) (h : EndsName rest) :
    qualifier (i.text ++ rest) = none := by
  have hpoint : character '.' (skipBlanks rest) = none := by
    have hstop := h.point
    cases hskip : skipBlanks rest with
    | nil => rfl
    | cons c tail =>
      have hc : c ≠ '.' := by simpa using hstop c (by rw [hskip]; rfl)
      rw [character, if_neg hc]
  rw [qualifier, i.simpleName_text h.word h.quote, Option.bind_some]
  dsimp only
  rw [hpoint, Option.map_none]

/-- The name that counts is the one after the point, if there is a point. Otherwise the search for a
schema fails, and the name is looked for again from the beginning. -/
theorem tableName_text (n : TableName) (h : EndsName rest) :
    tableName (n.text ++ rest) = some (n.identifier.word.text, rest) := by
  have hname := n.identifier.simpleName_text h.word h.quote
  rw [TableName.text, TableName.qualifierText, List.append_assoc, tableName]
  cases n.qualifier with
  | none =>
    show ((qualifier (n.identifier.text ++ rest)).bind simpleName).or
      (simpleName (n.identifier.text ++ rest)) = _
    rw [qualifier_identifier n.identifier h, hname]
    rfl
  | some q =>
    show ((qualifier (q.text ++ (n.identifier.text ++ rest))).bind simpleName).or _ = _
    rw [qualifier_text q n.identifier.stops_isBlank, Option.bind_some, hname]
    rfl

/-! ## What stands before the name -/

theorem temporary_text (t : Temporary) (h : Stops isBlank rest) :
    modifier.temporary (t.text ++ rest) = some rest := by
  cases t with
  | long k => rw [Temporary.text, modifier.temporary, k.recognised h, Option.some_or]
  | short k =>
    rw [Temporary.text, modifier.temporary, k.not_recognised _ (by decide) (by decide),
      k.recognised h, Option.none_or]

theorem Temporary.stops_isBlank (t : Temporary) : Stops isBlank (t.text ++ rest) := by
  cases t with
  | long k => exact k.stops_isBlank
  | short k => exact k.stops_isBlank

/-- A modifier is found whichever it is. Each keyword that is tried before the right one has to
fail, since the recogniser takes the first that fits. -/
theorem modifier_text (m : Modifier) (h : Stops isBlank rest) :
    modifier (m.text ++ rest) = some rest := by
  cases m with
  | unlogged k =>
    simp only [Modifier.text, modifier, modifier.temporary,
      k.not_recognised "global" (by decide) (by decide),
      k.not_recognised "local" (by decide) (by decide),
      k.not_recognised "temporary" (by decide) (by decide),
      k.not_recognised "temp" (by decide) (by decide), k.recognised h,
      Option.none_or, Option.bind_none]
  | temporary scope t =>
    have ht := temporary_text t h
    -- Without a scope, both keywords of scopes fail at the word itself; with one, the word follows
    -- it.
    cases scope with
    | none =>
      have hscope : ∀ word : String, word ≠ "temporary" → word ≠ "temp" →
          IsSmall word → spacedKeyword word (t.text ++ rest) = none := by
        intro word hlong hshort hword
        cases t with
        | long k => exact k.not_recognised word hlong hword
        | short k => exact k.not_recognised word hshort hword
      show modifier (t.text ++ rest) = _
      simp only [modifier, hscope "global" (by decide) (by decide) (by decide),
        hscope "local" (by decide) (by decide) (by decide), ht,
        Option.none_or, Option.bind_none, Option.some_or]
    | some scope =>
      have hblank : Stops isBlank (t.text ++ rest) := t.stops_isBlank
      cases scope with
      | everywhere k =>
        show modifier ((k.text ++ t.text) ++ rest) = _
        simp only [List.append_assoc, modifier, k.recognised hblank, Option.some_or,
          Option.bind_some, ht]
      | here k =>
        show modifier ((k.text ++ t.text) ++ rest) = _
        simp only [List.append_assoc, modifier, k.recognised hblank,
          k.not_recognised "global" (by decide) (by decide), Option.none_or,
          Option.some_or, Option.bind_some, ht]

theorem Modifier.stops_isBlank (m : Modifier) : Stops isBlank (m.text ++ rest) := by
  cases m with
  | unlogged k => exact k.stops_isBlank
  | temporary scope t =>
    rw [Modifier.text, List.append_assoc]
    cases scope with
    | none => exact t.stops_isBlank
    | some scope =>
      cases scope with
      | everywhere k => exact k.stops_isBlank
      | here k => exact k.stops_isBlank

/-- No modifier is found where the keyword for tables stands. -/
theorem modifier_table (k : SpacedKeyword "table") : modifier (k.text ++ rest) = none := by
  simp only [modifier, modifier.temporary,
    k.not_recognised "global" (by decide) (by decide),
    k.not_recognised "local" (by decide) (by decide),
    k.not_recognised "temporary" (by decide) (by decide),
    k.not_recognised "temp" (by decide) (by decide),
    k.not_recognised "unlogged" (by decide) (by decide),
    Option.none_or, Option.bind_none]

/-- A guard is three keywords, each with blanks behind it. -/
theorem ifNotExists_text (g : Guard) (h : Stops isBlank rest) :
    ifNotExists (g.text ++ rest) = some rest := by
  simp only [Guard.text, List.append_assoc, ifNotExists,
    g.condition.recognised g.negation.stops_isBlank, Option.bind_some,
    g.negation.recognised g.existence.stops_isBlank, g.existence.recognised h]

/-- What may follow the name that a declaration is made with: what ends a name, and not the `NOT`
that would make a guard of a table called `if`. Such a name is all that the guard could be mistaken
for. -/
structure EndsDeclaredName (rest : List Char) : Prop extends EndsName rest where
  negation : spacedKeyword "not" (skipBlanks rest) = none

theorem endsDeclaredName_mark (b : Blanks) {c : Char} (hword : isWord c = false)
    (hblank : isBlank c = false) (hquote : c ≠ '"') (hpoint : c ≠ '.') :
    EndsDeclaredName (b.text ++ c :: rest) where
  toEndsName := endsName_mark b hword hblank hquote hpoint
  negation := by
    rw [skipBlanks_append b (stops_cons hblank)]
    exact spacedKeyword_eq_none (by decide) (by decide) (stops_cons hword)

/-- A name is not taken for a guard, even if it is `if`. -/
theorem ifNotExists_word {t : List Char} (ht : ∀ c ∈ t, isWord c = true)
    (hstop : Stops isWord rest) (hnegation : spacedKeyword "not" (skipBlanks rest) = none) :
    ifNotExists (t ++ rest) = none := by
  rw [ifNotExists, spacedKeyword_word (by decide) ht hstop]
  split
  · rcases blanks_cases rest with h | h
    · rw [h, Option.bind_some, hnegation]
      rfl
    · rw [h]
      rfl
  · rfl

/-- A quoted name begins with a quote, which no keyword does. -/
theorem ifNotExists_identifier (i : Identifier) (hstop : Stops isWord rest)
    (hnegation : spacedKeyword "not" (skipBlanks rest) = none) :
    ifNotExists (i.text ++ rest) = none := by
  unfold Identifier.text
  split
  · have hquote : spacedKeyword "if" ('"' :: i.word.text ++ ['"'] ++ rest) = none :=
      spacedKeyword_eq_none (by decide) (by decide) (stops_cons (by decide))
    rw [ifNotExists, hquote]
    rfl
  · exact ifNotExists_word i.word.word hstop hnegation

/-- A schema called `if` is no guard, either: a point follows it. -/
theorem ifNotExists_name (n : TableName) (h : EndsDeclaredName rest) :
    ifNotExists (n.text ++ rest) = none := by
  rw [TableName.text, TableName.qualifierText]
  cases n.qualifier with
  | none => exact ifNotExists_identifier n.identifier h.word h.negation
  | some q =>
    have htext : q.text ++ n.identifier.text ++ rest = q.schema.text ++
        (q.beforePoint.text ++ '.' :: (q.afterPoint.text ++ n.identifier.text ++ rest)) := by
      simp [Qualifier.text]
    show ifNotExists (q.text ++ n.identifier.text ++ rest) = none
    rw [htext]
    refine ifNotExists_identifier q.schema (q.beforePoint.stops_isWord (stops_cons (by decide))) ?_
    rw [skipBlanks_append q.beforePoint (stops_cons (by decide))]
    exact spacedKeyword_eq_none (by decide) (by decide) (stops_cons (by decide))

/-! ## Declarations -/

theorem TableName.stops_isBlank (n : TableName) : Stops isBlank (n.text ++ rest) := by
  rw [text, qualifierText]
  cases n.qualifier with
  | none => exact n.identifier.stops_isBlank
  | some q =>
    show Stops isBlank (q.text ++ n.identifier.text ++ rest)
    rw [Qualifier.text, List.append_assoc, List.append_assoc, List.append_assoc]
    exact q.schema.stops_isBlank

namespace Declaration

variable (d : Declaration)

theorem body_eq :
    d.body = d.beforeItems.text ++ '(' :: (d.afterOpening.text ++ (d.itemsText ++ [')'])) := by
  simp [body]

theorem endsDeclaredName_body : EndsDeclaredName d.body := by
  rw [body_eq]
  exact endsDeclaredName_mark d.beforeItems (by decide) (by decide) (by decide) (by decide)

theorem stops_isBlank_guarded : Stops isBlank (d.guardText ++ (d.name.text ++ rest)) := by
  rw [guardText]
  cases d.guard with
  | none => exact d.name.stops_isBlank
  | some g =>
    show Stops isBlank (g.text ++ (d.name.text ++ rest))
    rw [Guard.text, List.append_assoc, List.append_assoc]
    exact g.condition.stops_isBlank

/-- From the keyword `TABLE` up to the name, with a guard or without. -/
theorem tableClause_text (h : EndsDeclaredName rest) :
    tableClause (d.table.text ++ (d.guardText ++ (d.name.text ++ rest))) =
      some d.name.identifier.word.text := by
  have hname := tableName_text d.name h.toEndsName
  rw [tableClause, d.table.recognised d.stops_isBlank_guarded, Option.bind_some, guardText]
  cases d.guard with
  | none =>
    show (((ifNotExists (d.name.text ++ rest)).bind tableName).or
      (tableName (d.name.text ++ rest))).map (·.1) = _
    rw [ifNotExists_name d.name h, hname]
    rfl
  | some g =>
    have hblank : Stops isBlank (d.name.text ++ rest) := d.name.stops_isBlank
    have hguard := ifNotExists_text g hblank
    show (((ifNotExists (g.text ++ (d.name.text ++ rest))).bind tableName).or _).map (·.1) = _
    rw [hguard, Option.bind_some, hname]
    rfl

/-- The name that a declaration is made with is found, whatever comes after it. So the items need
not be read to know the table. -/
theorem declaredName_append (h : EndsDeclaredName rest) :
    declaredName (d.head ++ (d.name.text ++ rest)) = some d.name.identifier.word.text := by
  have htable := d.tableClause_text h
  rw [head, List.append_assoc, List.append_assoc, List.append_assoc, declaredName, modifierText]
  cases d.modifier with
  | none =>
    show (spacedKeyword "create" (d.create.text ++ (d.table.text ++ _))).bind _ = _
    rw [d.create.recognised d.table.stops_isBlank, Option.bind_some, modifier_table, htable]
    rfl
  | some m =>
    show (spacedKeyword "create" (d.create.text ++ (m.text ++ _))).bind _ = _
    rw [d.create.recognised m.stops_isBlank, Option.bind_some,
      modifier_text m d.table.stops_isBlank, Option.bind_some, htable]
    rfl

/-- The name that a declaration was made with is found in it, at its place between the head and the
items. -/
theorem declaredName_statement : declaredName d.statement = some d.name.identifier.word.text := by
  rw [statement, List.append_assoc, d.declaredName_append d.endsDeclaredName_body]

end Declaration

end SchemaSeed.Script
