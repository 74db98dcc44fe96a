import Mathlib.Data.List.TakeWhile
import SchemaSeed.Proofs.Script.Recognition

/-!
# The references of a declaration

A foreign key is found where it was written, and nothing is taken for one elsewhere. Two
reasons exclude it: before the items no keyword is `foreign`, and a name is followed by no
second word; inside the items a parenthesis would have to come before the next mark. The
main statement is `references_statement`.
-/

namespace SchemaSeed.Script

open Text (isBlank isWord Stops stops_cons dropWhile_append_stops)

variable {word : String} {rest : List Char}

/-! ## One step of the search -/

theorem references_nil (inWord : Bool) : references inWord [] = [] := by
  rw [references]

/-- Inside a word, the next character is passed over. -/
theorem references_inWord (c : Char) (rest : List Char) :
    references true (c :: rest) = references (isWord c) rest := by
  rw [references]
  rfl

/-- And so is a character at which no foreign key begins. -/
theorem references_of_none {c : Char} (h : foreignKey (c :: rest) = none) (inWord : Bool) :
    references inWord (c :: rest) = references (isWord c) rest := by
  cases inWord with
  | true => exact references_inWord c rest
  | false =>
    rw [references]
    split
    · next name after heq =>
      rw [if_neg Bool.false_ne_true, h] at heq
      cases heq
    · rfl

/-- A foreign key is taken whole, and the search goes on behind it, where a word may begin. -/
theorem references_of_some {cs name after : List Char} (h : foreignKey cs = some (name, after)) :
    references false cs = name :: references false after := by
  cases cs with
  | nil => cases h
  | cons c rest =>
    rw [references]
    split
    · next name' after' heq =>
      rw [if_neg Bool.false_ne_true, h] at heq
      cases heq
      rfl
    · next heq =>
      rw [if_neg Bool.false_ne_true, h] at heq
      cases heq

/-- Without its first word there is no foreign key. -/
theorem foreignKey_of_spacedKeyword {cs : List Char} (h : spacedKeyword "foreign" cs = none) :
    foreignKey cs = none := by
  rw [foreignKey, h]
  rfl

theorem foreignKey_of_stops (h : Stops isWord rest) : foreignKey rest = none :=
  foreignKey_of_spacedKeyword (spacedKeyword_eq_none (by decide) (by decide) h)

/-- No foreign key begins at a mark, and after it a word may begin. -/
theorem references_mark {c : Char} (h : isWord c = false) (inWord : Bool) :
    references inWord (c :: rest) = references false rest := by
  rw [references_of_none (foreignKey_of_stops (stops_cons h)), h]

theorem references_of_stops (h : Stops isWord rest) (inWord : Bool) :
    references inWord rest = references false rest := by
  cases rest with
  | nil => rw [references_nil, references_nil]
  | cons c rest => rw [references_mark (h c rfl), references_mark (h c rfl)]

/-- Blanks are passed over, and a word may begin behind them. By induction on the blanks. -/
theorem references_blanks (b : Blanks) : references false (b.text ++ rest) = references false rest := by
  obtain ⟨text, hblank⟩ := b
  induction text with
  | nil => rfl
  | cons c text ih =>
    rw [List.cons_append, references_mark (isWord_of_isBlank (hblank c List.mem_cons_self))]
    exact ih fun d hd => hblank d (List.mem_cons_of_mem _ hd)

theorem references_word_inWord {t : List Char} (ht : ∀ c ∈ t, isWord c = true) :
    references true (t ++ rest) = references true rest := by
  induction t with
  | nil => rfl
  | cons c t ih =>
    rw [List.cons_append, references_inWord, ht c List.mem_cons_self]
    exact ih fun d hd => ht d (List.mem_cons_of_mem _ hd)

/-- A word at which no foreign key begins is passed over whole, since the search begins nowhere
within it. -/
theorem references_word {t : List Char} (ht : ∀ c ∈ t, isWord c = true)
    (hnone : foreignKey (t ++ rest) = none) (hrest : Stops isWord rest) :
    references false (t ++ rest) = references false rest := by
  cases t with
  | nil => rfl
  | cons c t =>
    rw [List.cons_append] at hnone ⊢
    rw [references_of_none hnone, ht c List.mem_cons_self,
      references_word_inWord fun d hd => ht d (List.mem_cons_of_mem _ hd),
      references_of_stops hrest]

/-! ## Before the items -/

/-- The other keywords of a declaration are such words. -/
theorem references_spacedKeyword (k : SpacedKeyword word) (hne : "foreign" ≠ word) :
    references false (k.text ++ rest) = references false rest := by
  have hnone : foreignKey (k.text ++ rest) = none :=
    foreignKey_of_spacedKeyword (k.not_recognised _ hne (by decide))
  rw [SpacedKeyword.text, List.append_assoc] at hnone ⊢
  rw [references_word (fun c hc => k.keyword.isWord_of_mem hc) hnone k.gap.stops_isWord,
    references_blanks]

/-- A name may be `foreign`, but it is followed by a mark and not by another word. -/
theorem foreignKey_word {t : List Char} (ht : ∀ c ∈ t, isWord c = true) (b : Blanks) {c : Char}
    (hword : isWord c = false) (hblank : isBlank c = false) :
    foreignKey (t ++ (b.text ++ c :: rest)) = none := by
  have hmark : keyword "key".toList (c :: rest) = none := by
    have hletters : IsSmall "key" := by decide
    have hstop : Stops isWord (c :: rest) := stops_cons hword
    exact keyword_append (t := []) hletters hstop
  rw [foreignKey, spacedKeyword_word (by decide) ht (b.stops_isWord (stops_cons hword))]
  split
  · have hstop : Stops isBlank (c :: rest) := stops_cons hblank
    rcases blanks_append_cases b hstop with h | h
    · rw [h, Option.bind_some, hmark]
      rfl
    · rw [h]
      rfl
  · rfl

/-- A name is passed over with its quotes or without. -/
theorem references_identifier (i : Identifier) (b : Blanks) {c : Char}
    (hword : isWord c = false) (hblank : isBlank c = false) :
    references false (i.text ++ (b.text ++ c :: rest)) = references false rest := by
  have hafter : references false (b.text ++ c :: rest) = references false rest := by
    rw [references_blanks, references_mark hword]
  unfold Identifier.text
  split
  · have hquote : Stops isWord ('"' :: (b.text ++ c :: rest)) := stops_cons (by decide)
    have hnone : foreignKey (i.word.text ++ '"' :: (b.text ++ c :: rest)) = none :=
      foreignKey_word i.word.word ⟨[], by simp⟩ (by decide) (by decide)
    have htext : '"' :: i.word.text ++ ['"'] ++ (b.text ++ c :: rest) =
        '"' :: (i.word.text ++ '"' :: (b.text ++ c :: rest)) := by
      simp
    rw [htext, references_mark (by decide), references_word i.word.word hnone hquote,
      references_mark (by decide), hafter]
  · rw [references_word i.word.word (foreignKey_word i.word.word b hword hblank)
      (b.stops_isWord (stops_cons hword)), hafter]

/-- The name of a table is passed over with its schema. -/
theorem references_tableName (n : TableName) (b : Blanks) {c : Char}
    (hword : isWord c = false) (hblank : isBlank c = false) :
    references false (n.text ++ (b.text ++ c :: rest)) = references false rest := by
  have hname : references false (n.identifier.text ++ (b.text ++ c :: rest)) = _ :=
    references_identifier n.identifier b hword hblank
  rw [TableName.text, TableName.qualifierText]
  cases n.qualifier with
  | none => exact hname
  | some q =>
    have htext : q.text ++ n.identifier.text ++ (b.text ++ c :: rest) = q.schema.text ++
        (q.beforePoint.text ++ '.' :: (q.afterPoint.text ++
          (n.identifier.text ++ (b.text ++ c :: rest)))) := by
      simp [Qualifier.text]
    show references false (q.text ++ n.identifier.text ++ (b.text ++ c :: rest)) = _
    rw [htext, references_identifier q.schema q.beforePoint (by decide) (by decide),
      references_blanks, hname]

/-- So are all modifiers, whose keywords are not `FOREIGN`. -/
theorem references_modifier (m : Modifier) :
    references false (m.text ++ rest) = references false rest := by
  have htemporary : ∀ t : Temporary, references false (t.text ++ rest) = references false rest := by
    intro t
    cases t with
    | long k => exact references_spacedKeyword k (by decide)
    | short k => exact references_spacedKeyword k (by decide)
  cases m with
  | unlogged k => exact references_spacedKeyword k (by decide)
  | temporary scope t =>
    rw [Modifier.text, List.append_assoc]
    cases scope with
    | none => exact htemporary t
    | some scope =>
      cases scope with
      | everywhere k => exact (references_spacedKeyword k (by decide)).trans (htemporary t)
      | here k => exact (references_spacedKeyword k (by decide)).trans (htemporary t)

theorem references_guard (g : Guard) : references false (g.text ++ rest) = references false rest := by
  rw [Guard.text, List.append_assoc, List.append_assoc,
    references_spacedKeyword g.condition (by decide),
    references_spacedKeyword g.negation (by decide),
    references_spacedKeyword g.existence (by decide)]

/-- All in all, nothing is found before the name of the table. -/
theorem Declaration.references_head (d : Declaration) :
    Script.references false (d.head ++ rest) = Script.references false rest := by
  have hmodifier : ∀ {rest}, Script.references false (d.modifierText ++ rest) =
      Script.references false rest := by
    intro rest
    rw [modifierText]
    cases d.modifier with
    | none => rfl
    | some m => exact references_modifier m
  have hguard : Script.references false (d.guardText ++ rest) = Script.references false rest := by
    rw [guardText]
    cases d.guard with
    | none => rfl
    | some g => exact references_guard g
  rw [head, List.append_assoc, List.append_assoc, List.append_assoc,
    references_spacedKeyword d.create (by decide), hmodifier,
    references_spacedKeyword d.table (by decide), hguard]

/-! ## Inside the items -/

/-- What may stand between the keywords of a foreign key and its parenthesis. -/
def isInner (c : Char) : Bool := isWord c || isBlank c

/-- Words and blanks, and then an opening parenthesis. This is what a foreign key needs to begin,
and what a column does not have. -/
def Opens (cs : List Char) : Prop := (cs.dropWhile isInner).head? = some '('

theorem Opens.append {cs : List Char} (hcs : ∀ c ∈ cs, isInner c = true) (h : Opens rest) :
    Opens (cs ++ rest) := by
  rw [Opens, List.dropWhile_append_of_pos hcs]
  exact h

/-- What begins with a keyword opens when the rest of it does, since a keyword is made of word
characters. -/
theorem Opens.keyword {letters cs : List Char} (hletters : ∀ k ∈ letters, k.isLower = true)
    (hkeyword : keyword letters cs = some rest) (h : Opens rest) : Opens cs := by
  fun_induction Script.keyword letters cs with
  | case1 => cases hkeyword; exact h
  | case2 => cases hkeyword
  | case3 k letters c tail hk ih =>
    have hc := isWord_of_isCaseOf (hletters k List.mem_cons_self) hk
    have htail := ih (fun d hd => hletters d (List.mem_cons_of_mem _ hd)) hkeyword
    have hinner : ∀ d ∈ [c], isInner d = true := by simp [isInner, hc]
    exact Opens.append hinner htail
  | case4 => cases hkeyword

theorem Opens.skipBlanks {cs : List Char} (h : Opens (skipBlanks cs)) : Opens cs := by
  rw [← List.takeWhile_append_dropWhile (p := isBlank) (l := cs)]
  refine Opens.append (fun c hc => ?_) h
  simp [isInner, List.mem_takeWhile_imp hc]

theorem Opens.spacedKeyword {cs : List Char} (hword : IsSmall word)
    (hkeyword : spacedKeyword word cs = some rest) (h : Opens rest) : Opens cs := by
  obtain ⟨mid, hmid, hblanks⟩ := Option.bind_eq_some_iff.1 hkeyword
  refine Opens.keyword hword hmid ?_
  unfold blanks at hblanks
  split at hblanks
  · cases hblanks
  · next c tail =>
    split at hblanks
    · next hc =>
      cases hblanks
      have hinner : ∀ d ∈ [c], isInner d = true := by simp [isInner, hc]
      exact Opens.append hinner (Opens.skipBlanks h)
    · cases hblanks

/-- A foreign key begins with words and an opening parenthesis. What does not begin so can be passed
over. -/
theorem opens_of_foreignKey {cs : List Char} {found : List Char × List Char}
    (h : foreignKey cs = some found) : Opens cs := by
  obtain ⟨r₄, h, -⟩ := Option.bind_eq_some_iff.1 h
  obtain ⟨r₃, h, -⟩ := Option.bind_eq_some_iff.1 h
  obtain ⟨r₂, h, hparenthesis⟩ := Option.bind_eq_some_iff.1 h
  obtain ⟨r₁, hforeign, hkey⟩ := Option.bind_eq_some_iff.1 h
  obtain ⟨inside, hopen, -⟩ := Option.bind_eq_some_iff.1 hparenthesis
  -- Behind its two words, a foreign key has its parenthesis, which is looked for behind blanks.
  have hopens : Opens (Script.skipBlanks r₂) := by
    unfold character at hopen
    split at hopen
    · cases hopen
    · next d tail heq =>
      split at hopen
      · next hd =>
        subst hd
        rw [heq]
        rfl
      · cases hopen
  have hletters : IsSmall "key" := by decide
  exact Opens.spacedKeyword (by decide) hforeign (Opens.keyword hletters hkey hopens.skipBlanks)

/-- A mark before the first opening parenthesis rules it out. -/
theorem not_opens {t : List Char} {c : Char} (ht : '(' ∉ t) (hopen : c ≠ '(')
    (hc : isInner c = false) : ¬Opens (t ++ c :: rest) := by
  induction t with
  | nil =>
    intro h
    rw [Opens, List.nil_append, List.dropWhile_cons_of_neg (by simp [hc])] at h
    exact hopen (Option.some.inj h)
  | cons d t ih =>
    simp only [List.mem_cons, not_or] at ht
    intro h
    by_cases hd : isInner d = true
    · rw [Opens, List.cons_append, List.dropWhile_cons_of_pos hd] at h
      exact ih ht.2 h
    · rw [Opens, List.cons_append, List.dropWhile_cons_of_neg hd] at h
      exact ht.1 (Option.some.inj h).symm

/-- Where a mark comes before any opening parenthesis, no foreign key is found. By induction on the
text up to the mark. -/
theorem references_until_mark {t : List Char} {c : Char} (ht : '(' ∉ t) (hopen : c ≠ '(')
    (hword : isWord c = false) (hblank : isBlank c = false) (inWord : Bool) :
    references inWord (t ++ c :: rest) = references false rest := by
  induction t generalizing inWord with
  | nil => exact references_mark hword inWord
  | cons d t ih =>
    have hnone : foreignKey (d :: t ++ c :: rest) = none := by
      rw [Option.eq_none_iff_forall_ne_some]
      intro found h
      exact not_opens ht hopen (by simp [isInner, hword, hblank]) (opens_of_foreignKey h)
    rw [List.cons_append] at hnone ⊢
    rw [references_of_none hnone]
    exact ih (fun h => ht (List.mem_cons_of_mem _ h)) _

theorem open_notMem_of_inner {t : List Char} (ht : ∀ c ∈ t, isWord c = true ∨ isBlank c = true ∨ c = ',') :
    '(' ∉ t := by
  intro h
  rcases ht _ h with h | h | h <;> revert h <;> decide

/-- Nothing is found in the columns between two parentheses. -/
theorem references_enclosed (columns : Columns) :
    references false (columns.enclosed ++ rest) = references false rest := by
  have htext : columns.enclosed ++ rest = '(' :: (columns.text ++ ')' :: rest) := by
    simp [Columns.enclosed]
  rw [htext, references_mark (by decide)]
  exact references_until_mark (open_notMem_of_inner columns.plain) (by decide) (by decide)
    (by decide) false

/-! ## Foreign keys -/

/-- Columns hold no closing parenthesis, so the first one ends them. -/
theorem parenthesised_enclosed (columns : Columns) :
    parenthesised (columns.enclosed ++ rest) = some rest := by
  have htext : columns.enclosed ++ rest = '(' :: (columns.text ++ ')' :: rest) := by
    simp [Columns.enclosed]
  have hinside : ∀ c ∈ columns.text, (c != ')') = true := by
    intro c hc
    rw [bne_iff_ne]
    rintro rfl
    rcases columns.plain _ hc with h | h | h <;> revert h <;> decide
  have hclose : (columns.text ++ ')' :: rest).dropWhile (· != ')') = ')' :: rest :=
    dropWhile_append_stops hinside (stops_cons (by decide))
  rw [htext, parenthesised]
  simp [character, hclose]

namespace ForeignKey

variable (k : ForeignKey)

/-- The name of the table that a foreign key refers to is ended by its columns, or by what follows
the key. -/
theorem endsName_target (h : EndsName rest) : EndsName (k.targetText ++ rest) := by
  rw [targetText]
  cases k.targetColumns with
  | none => exact h
  | some target =>
    have htext : target.1.text ++ target.2.enclosed ++ rest =
        target.1.text ++ '(' :: (target.2.text ++ ')' :: rest) := by
      simp [Columns.enclosed]
    show EndsName (target.1.text ++ target.2.enclosed ++ rest)
    rw [htext]
    exact endsName_mark _ (by decide) (by decide) (by decide) (by decide)

/-- A foreign key is found with the name that it was made with, and what it leaves are the columns
of that table. -/
theorem foreignKey_text (h : EndsName rest) : foreignKey (k.text ++ rest) =
    some (k.target.identifier.word.text, k.targetText ++ rest) := by
  have htext : k.text ++ rest = k.foreign.text ++ (k.key.text ++ (k.beforeColumns.text ++
      (k.columns.enclosed ++ (k.afterColumns.text ++ (k.references.text ++
        (k.target.text ++ (k.targetText ++ rest))))))) := by
    simp [text]
  have hkey : Stops isBlank (k.key.text ++ (k.beforeColumns.text ++
      (k.columns.enclosed ++ (k.afterColumns.text ++ (k.references.text ++
        (k.target.text ++ (k.targetText ++ rest))))))) :=
    stops_isBlank_word (fun c hc => k.key.isWord_of_mem hc) k.key.text_ne_nil
  have hopen : ∀ {rest}, Stops isBlank (k.columns.enclosed ++ rest) := stops_cons (by decide)
  rw [htext, foreignKey, k.foreign.recognised hkey, Option.bind_some, k.key.keyword_text,
    Option.bind_some, skipBlanks_append _ hopen, parenthesised_enclosed, Option.bind_some,
    skipBlanks_append _ k.references.stops_isBlank,
    k.references.recognised k.target.stops_isBlank, Option.bind_some,
    tableName_text _ (k.endsName_target h)]

/-- Nothing is found in the columns that are referred to. -/
theorem references_target : Script.references false (k.targetText ++ rest) =
    Script.references false rest := by
  rw [targetText]
  cases k.targetColumns with
  | none => rfl
  | some target =>
    show Script.references false (target.1.text ++ target.2.enclosed ++ rest) = _
    rw [List.append_assoc, references_blanks, references_enclosed]

end ForeignKey

/-! ## Items and declarations -/

/-- The reference of an item is found, whether a comma or the closing parenthesis follows. A column
has none, and a foreign key has one. -/
theorem references_item (p : PaddedItem) {c : Char} (hc : c = ',' ∨ c = ')') :
    (references false (p.text ++ c :: rest)).map String.ofList =
      p.item.reference?.toList ++ (references false rest).map String.ofList := by
  have hopen : c ≠ '(' := by rcases hc with rfl | rfl <;> decide
  have hword : isWord c = false := by rcases hc with rfl | rfl <;> decide
  have hblank : isBlank c = false := by rcases hc with rfl | rfl <;> decide
  have hquote : c ≠ '"' := by rcases hc with rfl | rfl <;> decide
  have hpoint : c ≠ '.' := by rcases hc with rfl | rfl <;> decide
  rw [PaddedItem.text, List.append_assoc, List.append_assoc, references_blanks]
  cases p.item with
  -- A column is words and blanks up to the mark, which comes before any parenthesis.
  | column name gap type =>
    have hinner : '(' ∉ name.text ++ gap.text ++ type.text ++ p.after.text := by
      apply open_notMem_of_inner
      intro d hd
      simp only [List.mem_append] at hd
      rcases hd with ((hd | hd) | hd) | hd
      · exact .inl (name.word d hd)
      · exact .inr (.inl (gap.blank d hd))
      · exact .inl (type.word d hd)
      · exact .inr (.inl (p.after.blank d hd))
    rw [Item.text, ← List.append_assoc, references_until_mark hinner hopen hword hblank]
    rfl
  -- The key is found where the blanks before it end, and nothing in what it leaves.
  | foreignKey k =>
    have hends : EndsName (p.after.text ++ c :: rest) :=
      endsName_mark p.after hword hblank hquote hpoint
    rw [Item.text, references_of_some (k.foreignKey_text hends), k.references_target,
      references_blanks, references_mark hword]
    rfl

/-- The references of all items are found in their order. By induction on the items, up to the
parenthesis that ends them. -/
theorem references_items (items : List PaddedItem) :
    (references false ([','].intercalate (items.map PaddedItem.text) ++ ')' :: rest)).map
      String.ofList =
      items.filterMap (·.item.reference?) ++ (references false rest).map String.ofList := by
  -- The references of the first item come first.
  have hcons : ∀ (p : PaddedItem) (items : List PaddedItem),
      (p :: items).filterMap (·.item.reference?) =
        p.item.reference?.toList ++ items.filterMap (·.item.reference?) := by
    intro p items
    rw [List.filterMap_cons]
    cases p.item.reference? <;> rfl
  induction items with
  | nil =>
    rw [List.map_nil, List.intercalate_nil, List.nil_append, references_mark (by decide)]
    rfl
  | cons p items ih =>
    rw [hcons]
    cases items with
    | nil =>
      -- The last item is ended by the parenthesis.
      rw [List.map_singleton, List.intercalate_singleton, references_item p (.inr rfl)]
      simp
    | cons q items =>
      rw [List.map_cons, List.map_cons, List.intercalate_cons_cons, List.append_assoc,
        List.append_assoc, ← List.map_cons, List.singleton_append,
        references_item p (.inl rfl), ih, List.append_assoc]

/-- The tables that a declaration was made to refer to are found in its text, one by one. Nothing is
found before the items. -/
theorem references_statement (d : Declaration) :
    (references false d.statement).map String.ofList = d.references := by
  rw [Declaration.statement, List.append_assoc, d.references_head, d.body_eq,
    references_tableName d.name d.beforeItems (by decide) (by decide), references_blanks,
    Declaration.itemsText, references_items, references_nil, List.map_nil, List.append_nil]
  rfl

end SchemaSeed.Script
