import Mathlib.Data.List.Forall2
import SchemaSeed.Proofs.Script.Likeness
import SchemaSeed.Proofs.Script.Scan

/-!
# Formatting does not matter

Two texts that differ only in the case of letters and in what blanks stand between words are
related by `Reformatted`. Every step of an extraction respects this relation: the cut into
statements, the recognisers of declarations and of foreign keys, and the lowercase form of a
name, in which the letters around a capital sigma count only as letters. The main statement
is `extractDependencies_reformatted`. Whether two texts are so related can be decided by their
normal forms (`reformatted_iff`).
-/

namespace SchemaSeed.Script

open Text (isBlank isWord stops_cons stops_append_of_ne_nil dropWhile_of_stops takeWhile_of_stops lowerChar
  lowercaseAfter lowercase meetsCased)

variable {c d : Char} {cs ds before before' : List Char}

/-! ## Letters in any case -/

/-- The same character, or the same letter of ASCII in another case. -/
def SameLetter (c d : Char) : Prop := c.toLower = d.toLower

theorem toLower_eq_self (h : c.isUpper = false) : c.toLower = c := by
  unfold Char.toLower
  split
  · next hupper =>
    have htrue : c.isUpper = true := decide_eq_true hupper
    rw [h] at htrue
    cases htrue
  · rfl

/-- What holds of the letters of ASCII can be looked up, character by character. The facts about
letters below are proved so, since the tables of Unicode are data. -/
theorem of_isAlpha {P : Char → Prop}
    (h : ∀ n, n < 128 → (Char.ofNat n).isAlpha = true → P (Char.ofNat n)) (hc : c.isAlpha = true) :
    P c := by
  have hlt : c.toNat < 128 := by
    rcases Bool.or_eq_true_iff.1 hc with hupper | hlower
    · have hle := UInt32.le_iff_toNat_le.1 (of_decide_eq_true hupper).2
      exact Nat.lt_of_le_of_lt hle (by decide)
    · have hle : c.val ≤ 'z'.val := of_decide_eq_true (Bool.and_eq_true_iff.1 hlower).2
      exact Nat.lt_of_le_of_lt (UInt32.le_iff_toNat_le.1 hle) (by decide)
  have hP := h c.toNat hlt
  rw [Char.ofNat_toNat] at hP
  exact hP hc

theorem isAlpha_toLower (h : c.isAlpha = true) : c.toLower.isAlpha = true :=
  of_isAlpha (P := fun c => c.toLower.isAlpha = true) (by decide) h

theorem SameLetter.symm (h : SameLetter c d) : SameLetter d c := Eq.symm h

/-- A capital letter is the same letter as another character only if that is a letter of ASCII, too.
-/
theorem SameLetter.isAlpha (h : SameLetter c d) (hc : c.isUpper = true) :
    c.isAlpha = true ∧ d.isAlpha = true := by
  have hupper : ∀ e : Char, e.isUpper = true → e.isAlpha = true :=
    fun _ he => Bool.or_eq_true_iff.2 (.inl he)
  refine ⟨hupper c hc, ?_⟩
  cases hd : d.isUpper with
  | true => exact hupper d hd
  | false =>
    rw [← toLower_eq_self hd, ← h]
    exact isAlpha_toLower (hupper c hc)

/-- Two spellings of a character are equal or both letters, so that a property of characters has two
cases only. -/
theorem SameLetter.eq_or (h : SameLetter c d) : c = d ∨ c.isAlpha = true ∧ d.isAlpha = true := by
  cases hc : c.isUpper with
  | true => exact .inr (h.isAlpha hc)
  | false =>
    cases hd : d.isUpper with
    | true => exact .inr (h.symm.isAlpha hd).symm
    | false =>
      left
      rw [← toLower_eq_self hc, h, toLower_eq_self hd]

/-- A property that all letters have, or none, is the same in any case. -/
theorem SameLetter.congr {α : Type} (h : SameLetter c d) {f : Char → α} {a : α}
    (hf : ∀ c : Char, c.isAlpha = true → f c = a) : f c = f d := by
  rcases h.eq_or with rfl | ⟨hc, hd⟩
  · rfl
  · rw [hf c hc, hf d hd]

namespace SameLetter

variable (h : SameLetter c d)

include h

theorem isWord_eq : isWord c = isWord d :=
  h.congr fun _ => of_isAlpha (P := fun c => isWord c = true) (by decide +kernel)

theorem isBlank_eq : isBlank c = isBlank d :=
  h.congr fun _ => of_isAlpha (P := fun c => isBlank c = false) (by decide)

theorem beq_eq {mark : Char} (hmark : mark.isAlpha = false) : (c == mark) = (d == mark) := by
  refine h.congr (f := (· == mark)) (a := false) fun e he => ?_
  rw [beq_eq_false_iff_ne]
  rintro rfl
  rw [hmark] at he
  cases he

theorem eq_iff {mark : Char} (hmark : mark.isAlpha = false) : c = mark ↔ d = mark := by
  rw [← beq_iff_eq, h.beq_eq hmark, beq_iff_eq]

/-- Keywords are recognised in any case, so the spelling of a letter does not matter to them. -/
theorem isCaseOf_eq (k : Char) : isCaseOf k c = isCaseOf k d := by
  have hlower : c.toLower = d.toLower := h
  have hlongS : (c == 'ſ') = (d == 'ſ') := h.beq_eq (by decide)
  have hkelvin : (c == '\u212a') = (d == '\u212a') := h.beq_eq (by decide)
  rw [isCaseOf, isCaseOf, hlower, hlongS, hkelvin]

end SameLetter

/-! ## Names in lowercase -/

abbrev SameLetters (cs ds : List Char) : Prop := List.Forall₂ SameLetter cs ds

theorem lowerChar_of_isAlpha (h : c.isAlpha = true) : lowerChar c = [c.toLower] :=
  of_isAlpha (P := fun c => lowerChar c = [c.toLower]) (by decide +kernel) h

/-- In the lowercase of Unicode, too, the letters of ASCII come together. -/
theorem SameLetter.lowerChar_eq (h : SameLetter c d) : lowerChar c = lowerChar d := by
  rcases h.eq_or with rfl | ⟨hc, hd⟩
  · rfl
  · have hlower : c.toLower = d.toLower := h
    rw [lowerChar_of_isAlpha hc, lowerChar_of_isAlpha hd, hlower]

/-- All letters are cased, so their case does not matter to a sigma beside them. -/
theorem SameLetters.meetsCased_eq (h : SameLetters cs ds) : meetsCased cs = meetsCased ds := by
  induction h with
  | nil => rfl
  | @cons c d cs ds hc _ ih =>
    have hignorable : Text.Table.caseIgnorable.contains c = Text.Table.caseIgnorable.contains d :=
      hc.congr fun _ => of_isAlpha (P := fun c => Text.Table.caseIgnorable.contains c = false)
        (by decide +kernel)
    have hcased : Text.Table.cased.contains c = Text.Table.cased.contains d :=
      hc.congr fun _ => of_isAlpha (P := fun c => Text.Table.cased.contains c = true)
        (by decide +kernel)
    -- Whatever is ignored on one side is ignored on the other.
    cases hd : Text.Table.caseIgnorable.contains d with
    | true =>
      rw [meetsCased, meetsCased, List.dropWhile_cons_of_pos (hignorable.trans hd),
        List.dropWhile_cons_of_pos hd]
      exact ih
    | false =>
      rw [hd] at hignorable
      rw [meetsCased, meetsCased, List.dropWhile_cons_of_neg (by simp [hignorable]),
        List.dropWhile_cons_of_neg (by simp [hd])]
      exact hcased

/-- A sigma has the same letters around it in either spelling, and so takes the same form. -/
theorem SameLetters.lowercaseAfter_eq (h : SameLetters cs ds) (hbefore : SameLetters before before') :
    lowercaseAfter before cs = lowercaseAfter before' ds := by
  induction h generalizing before before' with
  | nil => rfl
  | @cons c d cs ds hc hcs ih =>
    have hsigma : (c = 'Σ') = (d = 'Σ') := propext (hc.eq_iff (by decide))
    simp only [lowercaseAfter, hsigma, hbefore.meetsCased_eq, SameLetters.meetsCased_eq hcs,
      hc.lowerChar_eq, ih (.cons hc hbefore)]

/-- The names of tables in the facts do not depend on the case in which they were written. -/
theorem SameLetters.lowered_eq (h : SameLetters cs ds) :
    statementFact.lowered cs = statementFact.lowered ds := by
  rw [statementFact.lowered, statementFact.lowered, lowercase, lowercase, h.lowercaseAfter_eq List.Forall₂.nil]

/-! ## Texts in another format -/

/-- The same text but for the case of letters, and for other blanks in place of blanks. A gap stands
for a gap, so that blanks are neither added where there were none nor taken away altogether. -/
inductive Reformatted : List Char → List Char → Prop where
  | nil : Reformatted [] []
  | char {c d : Char} {cs ds : List Char} : SameLetter c d → Reformatted cs ds →
      Reformatted (c :: cs) (d :: ds)
  | gap {cs ds : List Char} (g g' : Gap) : Reformatted cs ds →
      Reformatted (g.text ++ cs) (g'.text ++ ds)

/-- A gap is not empty, so a recogniser sees its first blank. -/
theorem Gap.exists_cons (g : Gap) : ∃ c text, g.text = c :: text ∧ isBlank c = true := by
  cases htext : g.text with
  | nil => exact absurd htext g.ne_nil
  | cons c text => exact ⟨c, text, rfl, g.blank c (by rw [htext]; exact List.mem_cons_self)⟩

def Gap.reverse (g : Gap) : Gap where
  text := g.text.reverse
  blank c hc := g.blank c (List.mem_reverse.1 hc)
  ne_nil h := g.ne_nil (List.reverse_eq_nil_iff.1 h)

namespace Reformatted

theorem append {as bs : List Char} (h : Reformatted as bs) (h' : Reformatted cs ds) :
    Reformatted (as ++ cs) (bs ++ ds) := by
  induction h with
  | nil => exact h'
  | char hc _ ih => exact .char hc ih
  | gap g g' _ ih =>
    rw [List.append_assoc, List.append_assoc]
    exact .gap g g' ih

/-- From right to left likewise, which is how trailing blanks are trimmed. -/
theorem reverse (h : Reformatted cs ds) : Reformatted cs.reverse ds.reverse := by
  induction h with
  | nil => exact .nil
  | char hc _ ih =>
    rw [List.reverse_cons, List.reverse_cons]
    exact ih.append (.char hc .nil)
  | gap g g' _ ih =>
    rw [List.reverse_append, List.reverse_append]
    have hgap := ih.append (.gap g.reverse g'.reverse .nil)
    rwa [List.append_nil, List.append_nil] at hgap

/-- Only the empty text is reformatted to the empty one. -/
theorem eq_nil_iff (h : Reformatted cs ds) : cs = [] ↔ ds = [] := by
  cases h with
  | nil => exact Iff.rfl
  | char => simp
  | gap g g' => simp [g.ne_nil, g'.ne_nil]

/-- After a character that is no blank, the rest is in another format. -/
theorem exists_cons {mark : Char} (hmark : isBlank mark = false) (h : Reformatted (mark :: cs) ds) :
    ∃ d rest, ds = d :: rest ∧ SameLetter mark d ∧ Reformatted cs rest := by
  generalize hfront : mark :: cs = front at h
  cases h with
  | nil => cases hfront
  | char hc hcs =>
    cases hfront
    exact ⟨_, _, rfl, hc, hcs⟩
  | gap g g' _ =>
    obtain ⟨c, text, htext, hblank⟩ := g.exists_cons
    rw [htext] at hfront
    cases hfront
    rw [hmark] at hblank
    cases hblank

section Runs

variable {p : Char → Bool} {b : Bool} (hletter : ∀ c d, SameLetter c d → p c = p d)
  (hblank : ∀ c, isBlank c = true → p c = b)

include hletter hblank

/-- Where a run of characters ends does not depend on the format, if blanks are taken either all or
not at all. Otherwise two gaps of different length would be cut at different places. -/
theorem dropWhile (h : Reformatted cs ds) : Reformatted (cs.dropWhile p) (ds.dropWhile p) := by
  induction h with
  | nil => exact .nil
  | @char c d cs ds hc hcs ih =>
    rw [List.dropWhile_cons, List.dropWhile_cons, hletter c d hc]
    split
    · exact ih
    · exact .char hc hcs
  | gap g g' hcs ih =>
    have hgap : ∀ g : Gap, ∀ c ∈ g.text, p c = b := fun g c hc => hblank c (g.blank c hc)
    cases b with
    | true => rwa [List.dropWhile_append_of_pos (hgap g), List.dropWhile_append_of_pos (hgap g')]
    | false =>
      rw [dropWhile_of_stops (stops_append_of_ne_nil (hgap g) g.ne_nil),
        dropWhile_of_stops (stops_append_of_ne_nil (hgap g') g'.ne_nil)]
      exact .gap g g' hcs

theorem takeWhile (h : Reformatted cs ds) : Reformatted (cs.takeWhile p) (ds.takeWhile p) := by
  induction h with
  | nil => exact .nil
  | @char c d cs ds hc hcs ih =>
    rw [List.takeWhile_cons, List.takeWhile_cons, hletter c d hc]
    split
    · exact .char hc ih
    · exact .nil
  | gap g g' hcs ih =>
    have hgap : ∀ g : Gap, ∀ c ∈ g.text, p c = b := fun g c hc => hblank c (g.blank c hc)
    cases b with
    | true =>
      rw [List.takeWhile_append_of_pos (hgap g), List.takeWhile_append_of_pos (hgap g')]
      exact .gap g g' ih
    | false =>
      rw [takeWhile_of_stops (stops_append_of_ne_nil (hgap g) g.ne_nil),
        takeWhile_of_stops (stops_append_of_ne_nil (hgap g') g'.ne_nil)]
      exact .nil

end Runs

/-- Without blanks only the case of letters can differ. Names are such texts. -/
theorem sameLetters (h : Reformatted cs ds) (hcs : ∀ c ∈ cs, isBlank c = false) :
    SameLetters cs ds := by
  induction h with
  | nil => exact .nil
  | char hc _ ih => exact .cons hc (ih fun c h => hcs c (List.mem_cons_of_mem _ h))
  | gap g g' _ _ =>
    obtain ⟨c, text, htext, hblank⟩ := g.exists_cons
    rw [hcs c (by simp [htext])] at hblank
    cases hblank

/-! ## Recognisers -/

theorem skipBlanks (h : Reformatted cs ds) : Reformatted (skipBlanks cs) (skipBlanks ds) :=
  h.dropWhile (fun _ _ hc => hc.isBlank_eq) fun _ hblank => hblank

/-- One blank at least on one side is one at least on the other, and all of them are passed over. -/
theorem blanks (h : Reformatted cs ds) : Option.Rel Reformatted (blanks cs) (blanks ds) := by
  have hsome : ∀ {c : Char} (rest : List Char), isBlank c = true →
      Script.blanks (c :: rest) = some (Script.skipBlanks (c :: rest)) := by
    intro c rest hc
    rw [Script.blanks, if_pos hc, Script.skipBlanks, Script.skipBlanks,
      List.dropWhile_cons_of_pos hc]
  have hrest := h.skipBlanks
  -- A gap stands on both sides, or a character that is a blank on both or on none.
  cases h with
  | nil => exact .none
  | @char c d cs ds hc hcs =>
    cases hd : isBlank d with
    | true =>
      rw [hsome cs (hc.isBlank_eq.trans hd), hsome ds hd]
      exact .some hrest
    | false =>
      rw [blanks_eq_none (stops_cons (hc.isBlank_eq.trans hd)), blanks_eq_none (stops_cons hd)]
      exact .none
  | gap g g' _ =>
    obtain ⟨c, text, htext, hc⟩ := g.exists_cons
    obtain ⟨c', text', htext', hc'⟩ := g'.exists_cons
    rw [htext, htext', List.cons_append, List.cons_append] at hrest ⊢
    rw [hsome _ hc, hsome _ hc']
    exact .some hrest

/-- A keyword is spelled in any case, and it has no blanks in it. -/
theorem keyword {letters : List Char} (hletters : ∀ k ∈ letters, k.isLower = true)
    (h : Reformatted cs ds) : Option.Rel Reformatted (keyword letters cs) (keyword letters ds) := by
  induction letters generalizing cs ds with
  | nil => exact .some h
  | cons k letters ih =>
    cases h with
    | nil => exact .none
    | @char c d cs ds hc hcs =>
      rw [Script.keyword, Script.keyword, hc.isCaseOf_eq]
      split
      · exact ih (fun k hk => hletters k (List.mem_cons_of_mem _ hk)) hcs
      · exact .none
    | @gap cs ds g g' hcs =>
      have hnone : ∀ (g : Gap) (rest : List Char),
          Script.keyword (k :: letters) (g.text ++ rest) = none :=
        fun g rest => keyword_append (t := []) hletters g.stops_isWord
      rw [hnone, hnone]
      exact .none

/-- A mark that is neither a letter nor a blank is found in any format. -/
theorem character {mark : Char} (halpha : mark.isAlpha = false) (hblank : isBlank mark = false)
    (h : Reformatted cs ds) : Option.Rel Reformatted (character mark cs) (character mark ds) := by
  cases h with
  | nil => exact .none
  | @char c d cs ds hc hcs =>
    rw [Script.character, Script.character]
    by_cases hmark : c = mark
    · rw [if_pos hmark, if_pos ((hc.eq_iff halpha).1 hmark)]
      exact .some hcs
    · rw [if_neg hmark, if_neg fun hd => hmark ((hc.eq_iff halpha).2 hd)]
      exact .none
  | @gap cs ds g g' _ =>
    have hnone : ∀ (g : Gap) (rest : List Char), Script.character mark (g.text ++ rest) = none := by
      intro g rest
      obtain ⟨c, text, htext, hc⟩ := g.exists_cons
      rw [htext, List.cons_append, Script.character, if_neg (Text.ne_of_class hc hblank)]
    rw [hnone, hnone]
    exact .none

/-- One quote may stand at either end of a name; it is the same in any format. -/
theorem skipQuote (h : Reformatted cs ds) : Reformatted (skipQuote cs) (skipQuote ds) := by
  cases h with
  | nil => exact .nil
  | @char c d cs ds hc hcs =>
    rw [Script.skipQuote, Script.skipQuote]
    by_cases hquote : c = '"'
    · rw [if_pos hquote, if_pos ((hc.eq_iff (by decide)).1 hquote)]
      exact hcs
    · rw [if_neg hquote, if_neg fun hd => hquote ((hc.eq_iff (by decide)).2 hd)]
      exact .char hc hcs
  | @gap cs ds g g' hcs =>
    -- A gap does not begin with a quote, and stays where it is.
    have hnone : ∀ (g : Gap) (rest : List Char),
        Script.skipQuote (g.text ++ rest) = g.text ++ rest := by
      intro g rest
      obtain ⟨c, text, htext, hc⟩ := g.exists_cons
      have hquote : c ≠ '"' := Text.ne_of_class hc (by decide)
      rw [htext, List.cons_append, Script.skipQuote, if_neg hquote]
    rw [hnone, hnone]
    exact .gap g g' hcs

/-- A name is found at the same place, and it is of the same letters. -/
theorem simpleName (h : Reformatted cs ds) :
    Option.Rel (Named Reformatted SameLetters) (simpleName cs) (simpleName ds) := by
  have hletter : ∀ c d, SameLetter c d → isWord c = isWord d := fun _ _ hc => hc.isWord_eq
  have hblank : ∀ c, isBlank c = true → isWord c = false := fun _ => isWord_of_isBlank
  have hword := (h.skipQuote.takeWhile hletter hblank).sameLetters
    fun c hc => isBlank_of_isWord (List.mem_takeWhile_imp hc)
  have hrest := (h.skipQuote.dropWhile hletter hblank).skipQuote
  have hempty : ((Script.skipQuote cs).takeWhile isWord).isEmpty =
      ((Script.skipQuote ds).takeWhile isWord).isEmpty := by
    rw [Bool.eq_iff_iff, List.isEmpty_iff, List.isEmpty_iff, ← List.length_eq_zero_iff,
      hword.length_eq, List.length_eq_zero_iff]
  simp only [Script.simpleName, hempty]
  split
  · exact .none
  · exact .some ⟨hword, hrest⟩

end Reformatted

/-- The recognisers find the same in any format. The smallest ones were shown to do so above, and
the others follow. -/
theorem respects_reformatted : Respects Reformatted SameLetters where
  keyword hletters h := h.keyword hletters
  blanks h := h.blanks
  skipBlanks h := h.skipBlanks
  mark hmark h := by
    simp only [List.mem_cons, List.not_mem_nil, or_false] at hmark
    rcases hmark with rfl | rfl
    · exact h.character (by decide) (by decide)
    · exact h.character (by decide) (by decide)
  simpleName h := h.simpleName

namespace Reformatted

/-- The columns of a foreign key may be reformatted like anything else, so that their parenthesis is
closed at the same place. -/
theorem foreignKey (h : Reformatted cs ds) :
    Option.Rel (Named Reformatted SameLetters) (foreignKey cs) (foreignKey ds) := by
  refine respects_reformatted.foreignKey h fun inside inside' _ hinside => ?_
  have hclose : Reformatted (inside.dropWhile (· != ')')) (inside'.dropWhile (· != ')')) := by
    refine hinside.dropWhile (b := true) (fun c d hc => ?_) fun c hc => ?_
    · rw [bne, bne, hc.beq_eq (by decide)]
    · exact bne_iff_ne.2 (Text.ne_of_class hc (by decide))
  exact hclose.character (by decide) (by decide)

/-- Nothing is found in blanks, and behind them a word may begin. -/
theorem references_gap (g : Gap) (inWord : Bool) (rest : List Char) :
    references inWord (g.text ++ rest) = references false rest := by
  rw [references_of_stops g.stops_isWord, references_blanks]

/-- The same foreign keys are found, to the same tables. By induction on the length of the text,
since the search goes on behind a key that it found. -/
theorem references (h : Reformatted cs ds) (inWord : Bool) :
    List.Forall₂ SameLetters (references inWord cs) (references inWord ds) := by
  induction hlength : cs.length using Nat.strongRecOn generalizing cs ds inWord with
  | ind n ih =>
    have hkey := h.foreignKey
    cases h with
    | nil =>
      rw [references_nil]
      exact .nil
    | @char c d cs ds hc hcs =>
      have hlt : cs.length < n := by rw [← hlength]; exact Nat.lt_succ_self _
      cases inWord with
      | true =>
        rw [references_inWord, references_inWord, hc.isWord_eq]
        exact ih _ hlt hcs _ rfl
      | false =>
        -- A key is found in both texts or in none, by `hkey`.
        generalize hleft : Script.foreignKey (c :: cs) = left at hkey
        generalize hright : Script.foreignKey (d :: ds) = right at hkey
        cases hkey with
        | none =>
          rw [references_of_none hleft, references_of_none hright, hc.isWord_eq]
          exact ih _ hlt hcs _ rfl
        | @some a b hname =>
          have hafter : a.2.length < n := by
            rw [← hlength]
            exact length_foreignKey_lt hleft
          rw [references_of_some hleft, references_of_some hright]
          exact .cons hname.1 (ih _ hafter hname.2 false rfl)
    | @gap cs ds g g' hcs =>
      have hlt : cs.length < n := by
        have hpos := List.length_pos_of_ne_nil g.ne_nil
        rw [← hlength, List.length_append]
        omega
      rw [references_gap, references_gap]
      exact ih _ hlt hcs false rfl

/-! ## Statements and scripts -/

/-- The blanks around a statement are dropped, whatever they were. -/
theorem trim (h : Reformatted cs ds) : Reformatted (Text.trim cs) (Text.trim ds) := by
  have hletter : ∀ c d, SameLetter c d → isBlank c = isBlank d := fun _ _ hc => hc.isBlank_eq
  have hblank : ∀ c, isBlank c = true → isBlank c = true := fun _ hc => hc
  exact ((h.dropWhile hletter hblank).reverse.dropWhile hletter hblank).reverse

theorem split (h : Reformatted cs ds) :
    List.Forall₂ Reformatted (Text.split ';' cs) (Text.split ';' ds) := by
  have hletter : ∀ c d, SameLetter c d → (c != ';') = (d != ';') := by
    intro c d hc
    rw [bne, bne, hc.beq_eq (by decide)]
  have hblank : ∀ c, isBlank c = true → (c != ';') = true :=
    fun c hc => bne_iff_ne.2 (Text.ne_of_class hc (by decide))
  -- The first semicolon stands at the same place in both texts, with the same pieces before it.
  fun_induction Text.split ';' cs generalizing ds with
  | case1 cs hnone =>
    have hdrop := h.dropWhile hletter hblank
    rw [hnone] at hdrop
    rw [Text.split_of_dropWhile_eq_nil (hdrop.eq_nil_iff.1 rfl)]
    exact .cons h .nil
  | case2 cs c rest hcut ih =>
    have hdrop := h.dropWhile hletter hblank
    have hc : c = ';' := by
      have hhead := List.head?_dropWhile_not (· != ';') cs
      rw [hcut] at hhead
      simpa using hhead
    subst hc
    rw [hcut] at hdrop
    obtain ⟨d, rest', hcut', -, hrest⟩ := hdrop.exists_cons (by decide)
    rw [Text.split_of_dropWhile_eq_cons hcut']
    exact .cons (h.takeWhile hletter hblank) (ih hrest)

/-- A statement of blanks only is left out on either side, so that the statements still stand in
pairs. -/
theorem statements (h : Reformatted cs ds) :
    List.Forall₂ Reformatted (statements cs) (statements ds) := by
  have hsplit := h.split
  rw [Script.statements, Script.statements]
  generalize Text.split ';' cs = left at hsplit
  generalize Text.split ';' ds = right at hsplit
  induction hsplit with
  | nil => exact .nil
  | @cons piece piece' _ _ hpiece _ ih =>
    have htrim := hpiece.trim
    by_cases hempty : Text.trim piece = []
    · rw [List.map_cons, List.map_cons, List.filter_cons_of_neg (by simp [hempty]),
        List.filter_cons_of_neg (by simp [htrim.eq_nil_iff.1 hempty])]
      exact ih
    · have hempty' : Text.trim piece' ≠ [] := fun h => hempty (htrim.eq_nil_iff.2 h)
      rw [List.map_cons, List.map_cons, List.filter_cons_of_pos (by simp [hempty]),
        List.filter_cons_of_pos (by simp [hempty'])]
      exact .cons htrim ih

/-- Two such statements have one fact, or both have none: names are compared in lowercase. -/
theorem statementFact_eq (h : Reformatted cs ds) : statementFact cs = statementFact ds := by
  have hname := respects_reformatted.declaredName h
  have hreferences : (Script.references false cs).map statementFact.lowered =
      (Script.references false ds).map statementFact.lowered := by
    have hnames := h.references false
    generalize Script.references false cs = left at hnames
    generalize Script.references false ds = right at hnames
    induction hnames with
    | nil => rfl
    | cons hname _ ih => rw [List.map_cons, List.map_cons, hname.lowered_eq, ih]
  rw [statementFact, statementFact]
  generalize declaredName cs = left at hname
  generalize declaredName ds = right at hname
  cases hname with
  | none => rfl
  | some hname => simp only [Option.map_some, hname.lowered_eq, hreferences]

theorem filterMap_statementFact_eq {left right : List (List Char)}
    (h : List.Forall₂ Reformatted left right) :
    left.filterMap statementFact = right.filterMap statementFact := by
  induction h with
  | nil => rfl
  | cons hstatement _ ih => rw [List.filterMap_cons, List.filterMap_cons, hstatement.statementFact_eq, ih]

end Reformatted

/-! ## A normal form -/

/-- A text in small letters, with one blank for each run of blanks. `inGap` tells whether the
character before `cs` is a blank. With it, `Reformatted` can be decided. -/
def normalForm (inGap : Bool) : List Char → List Char
  | [] => []
  | c :: rest =>
    if isBlank c then
      if inGap then normalForm true rest else ' ' :: normalForm true rest
    else c.toLower :: normalForm false rest

theorem normalForm_blank {c : Char} (hc : isBlank c = true) (cs : List Char) :
    normalForm false (c :: cs) = ' ' :: normalForm true cs := by
  rw [normalForm, if_pos hc, if_neg (by decide)]

theorem normalForm_char {c : Char} (hc : isBlank c = false) (inGap : Bool) (cs : List Char) :
    normalForm inGap (c :: cs) = c.toLower :: normalForm false cs := by
  rw [normalForm, if_neg (by simp [hc])]

/-- The blanks that are left of a run do not show in the normal form. -/
theorem normalForm_inGap (cs : List Char) :
    normalForm true cs = normalForm false (skipBlanks cs) := by
  induction cs with
  | nil => rfl
  | cons c cs ih =>
    cases hc : isBlank c with
    | true =>
      rw [normalForm, if_pos hc, if_pos rfl, ih, skipBlanks, skipBlanks,
        List.dropWhile_cons_of_pos hc]
    | false =>
      rw [normalForm_char hc, skipBlanks, dropWhile_of_stops (stops_cons hc), normalForm_char hc]

theorem normalForm_gap (g : Gap) (inGap : Bool) (cs : List Char) :
    normalForm inGap (g.text ++ cs) =
      if inGap then normalForm true cs else ' ' :: normalForm true cs := by
  have hskip : ∀ text : List Char, (∀ c ∈ text, isBlank c = true) →
      normalForm true (text ++ cs) = normalForm true cs := by
    intro text htext
    rw [normalForm_inGap, normalForm_inGap, skipBlanks, List.dropWhile_append_of_pos htext,
      skipBlanks]
  obtain ⟨c, text, htext, hc⟩ := g.exists_cons
  have hrest : ∀ d ∈ text, isBlank d = true :=
    fun d hd => g.blank d (by rw [htext]; exact List.mem_cons_of_mem _ hd)
  rw [htext, List.cons_append, normalForm, if_pos hc, hskip text hrest]

/-- Texts that differ in format only have one normal form. By induction on how they differ. -/
theorem Reformatted.normalForm_eq (h : Reformatted cs ds) (inGap : Bool) :
    normalForm inGap cs = normalForm inGap ds := by
  induction h generalizing inGap with
  | nil => rfl
  | @char c d cs ds hc _ ih =>
    have hlower : c.toLower = d.toLower := hc
    rw [normalForm, normalForm, hc.isBlank_eq, hlower, ih, ih]
  | gap g g' _ ih => rw [normalForm_gap, normalForm_gap, ih]

/-- A blank begins a gap, which goes up to the next character that is none. -/
theorem exists_gap {c : Char} (hc : isBlank c = true) (cs : List Char) :
    ∃ g : Gap, c :: cs = g.text ++ skipBlanks cs := by
  refine ⟨⟨⟨c :: cs.takeWhile isBlank, fun d hd => ?_⟩, List.cons_ne_nil _ _⟩, ?_⟩
  · rcases List.mem_cons.1 hd with rfl | hd
    · exact hc
    · exact List.mem_takeWhile_imp hd
  · rw [List.cons_append, skipBlanks, List.takeWhile_append_dropWhile]

/-- And conversely, two texts of one normal form can be matched character by character and gap by
gap. By induction on the length, since a gap is taken as a whole. -/
theorem reformatted_of_normalForm_eq (h : normalForm false cs = normalForm false ds) :
    Reformatted cs ds := by
  -- No character but a blank is shown as a space, so a gap meets a gap.
  have hblank : ∀ c : Char, isBlank c = false → c.toLower ≠ ' ' := by
    intro c hc hspace
    have hsame : SameLetter c ' ' := hspace
    rw [hsame.isBlank_eq] at hc
    cases hc
  induction hlength : cs.length using Nat.strongRecOn generalizing cs ds with
  | ind n ih =>
    cases cs with
    | nil =>
      cases ds with
      | nil => exact .nil
      | cons d ds => cases hd : isBlank d <;> simp [normalForm, hd] at h
    | cons c cs =>
      cases ds with
      | nil => cases hc : isBlank c <;> simp [normalForm, hc] at h
      | cons d ds =>
        have hlt : cs.length < n := by rw [← hlength]; exact Nat.lt_succ_self _
        cases hc : isBlank c with
        | true =>
          cases hd : isBlank d with
          | true =>
            rw [normalForm_blank hc, normalForm_blank hd, normalForm_inGap, normalForm_inGap] at h
            obtain ⟨g, hg⟩ := exists_gap hc cs
            obtain ⟨g', hg'⟩ := exists_gap hd ds
            rw [hg, hg']
            have hle := length_skipBlanks_le cs
            exact .gap g g' (ih _ (by omega) (List.cons.inj h).2 rfl)
          | false =>
            rw [normalForm_blank hc, normalForm_char hd] at h
            exact absurd (List.cons.inj h).1.symm (hblank d hd)
        | false =>
          cases hd : isBlank d with
          | true =>
            rw [normalForm_char hc, normalForm_blank hd] at h
            exact absurd (List.cons.inj h).1 (hblank c hc)
          | false =>
            rw [normalForm_char hc, normalForm_char hd] at h
            exact .char (List.cons.inj h).1 (ih _ hlt (List.cons.inj h).2 rfl)

/-- Texts differ only in format when they have the same normal form. -/
theorem reformatted_iff : Reformatted cs ds ↔ normalForm false cs = normalForm false ds :=
  ⟨fun h => h.normalForm_eq false, reformatted_of_normalForm_eq⟩

instance : Decidable (Reformatted cs ds) := decidable_of_iff _ reformatted_iff.symm

/-! ## The facts of scripts in another format -/

/-- Scripts without comments and literals that differ only in format have the same facts. -/
theorem extractDependencies_reformatted {a b : String} (ha : Unmarked a.toList)
    (hb : Unmarked b.toList) (h : Reformatted a.toList b.toList) :
    extractDependencies a = extractDependencies b := by
  rw [extractDependencies, extractDependencies, ha.strip_eq, hb.strip_eq]
  exact Reformatted.filterMap_statementFact_eq h.statements

/-- A no-break space, a tab and line breaks in place of spaces, keywords and names in other
letters, and a capital sigma between letters that change their case. -/
theorem extractDependencies_reformatted_shop :
    let a := "CREATE TABLE shop.ODOΣx (id INT);" ++
      "create table Orders (FOREIGN KEY (id) REFERENCES odoΣX)"
    let b := "create\u00a0 table SHOP.odoΣX\n(ID\tint);" ++
      "CREATE\u2003TABLE orders (Foreign\n\tKey (id)\r\nreferences\u3000ODOΣx)"
    Unmarked a.toList ∧ Unmarked b.toList ∧ Reformatted a.toList b.toList ∧
      extractDependencies a = extractDependencies b := by
  intro a b
  have ha : Unmarked a.toList := by decide +kernel
  have hb : Unmarked b.toList := by decide +kernel
  have h : Reformatted a.toList b.toList := reformatted_iff.2 (by decide +kernel)
  exact ⟨ha, hb, h, extractDependencies_reformatted ha hb h⟩

end SchemaSeed.Script
