import Mathlib.Data.List.Infix
import SchemaSeed.Proofs.Script.Literal
import SchemaSeed.Proofs.Text.Split

/-!
# Comments, found in one pass

The pass over a script as a relation: `Begins` says what the first piece of a text is and
what follows it, and `Scans` writes the pieces again from left to right, with a blank for
each comment. The function side is `strip`. Its pieces are those of the relation
(`begins_nextPiece`, `Begins.nextPiece_eq`), so that the relation has one outcome for every
script (`strip_eq_iff_scans`).

The same outcome is reached when the pattern for literals and comments is matched from left
to right, with all its backtracking, and each comment that it finds is replaced
(`replaceAll_eq_strip`). The main statement, `stripComments_eq_iff_scans`, has both.
-/

namespace SchemaSeed.Script

open Text (Stops stops_nil stops_cons dropWhile_append_stops)

variable {body rest text cs out : List Char} {piece : Piece}

/-- The mark that ends a block comment stands somewhere in a text. -/
abbrev HasBlockEnd (cs : List Char) : Prop := ['*', '/'] <:+: cs

/-- No piece of more than one character begins at `c` before `rest`. The three conditions belong to
the three kinds of longer pieces. -/
structure Single (c : Char) (rest : List Char) : Prop where
  /-- A quote without another after it opens no literal. -/
  quote : c = '\'' → '\'' ∉ rest
  /-- Two dashes always begin a comment. -/
  dashes : c = '-' → Stops (· == '-') rest
  /-- A slash and a star begin one if it is ended. -/
  slash : c = '/' → ∀ inside, rest = '*' :: inside → ¬HasBlockEnd inside

/-- Only a quote, a dash or a slash can begin more. -/
theorem single_of_ne {c : Char} (h : c ≠ '\'' ∧ c ≠ '-' ∧ c ≠ '/') (rest : List Char) :
    Single c rest where
  quote hc := absurd hc h.1
  dashes hc := absurd hc h.2.1
  slash hc := absurd hc h.2.2

/-- `Begins cs piece rest`: the text `cs` begins with `piece`, and `rest` follows. This says what
the pieces of a text are without saying how they are found. -/
inductive Begins : List Char → Piece → List Char → Prop where
  | literal {body rest : List Char} : Closes body rest →
      Begins ('\'' :: (body ++ '\'' :: rest)) (.literal ('\'' :: (body ++ ['\'']))) rest
  /-- A line comment goes up to the end of the line or of the text. -/
  | line {text rest : List Char} : '\n' ∉ text → Stops (· != '\n') rest →
      Begins ('-' :: '-' :: (text ++ rest)) (.comment ('-' :: '-' :: text)) rest
  /-- A block comment goes through the first mark that ends one. -/
  | block {text rest : List Char} : ¬HasBlockEnd text →
      Begins ('/' :: '*' :: (text ++ '*' :: '/' :: rest))
        (.comment ('/' :: '*' :: (text ++ ['*', '/']))) rest
  | plain {c : Char} {rest : List Char} : Single c rest → Begins (c :: rest) (.plain c) rest

/-- `Scans cs out`: the pieces of `cs` from left to right, with a blank for each comment,
make up `out`. -/
inductive Scans : List Char → List Char → Prop where
  | done : Scans [] []
  | piece {cs rest out : List Char} {piece : Piece} : Begins cs piece rest → Scans rest out →
      Scans cs (piece.kept ++ out)

/-! ## Comments -/

/-- A line comment is read up to the line feed, which is left. -/
theorem afterLine_append (htext : '\n' ∉ text) (hrest : Stops (· != '\n') rest) :
    afterLine (text ++ rest) = rest := by
  have hline : ∀ c ∈ text, decide (c ≠ '\n') = true := by
    intro c hc
    rw [decide_eq_true_iff]
    rintro rfl
    exact htext hc
  exact dropWhile_append_stops hline (by simpa [Stops] using hrest)

theorem afterBlock_end (rest : List Char) : afterBlock ('*' :: '/' :: rest) = some rest := by
  rw [afterBlock, if_pos ⟨rfl, rfl⟩]

/-- The search for the end of a block comment passes over a character that does not begin the mark.
-/
theorem afterBlock_cons {c : Char} {cs : List Char} (h : ¬['*', '/'] <+: c :: cs) :
    afterBlock (c :: cs) = afterBlock cs := by
  cases cs with
  | nil => rfl
  | cons d cs =>
    have hmark : ¬(c = '*' ∧ d = '/') := by
      rintro ⟨rfl, rfl⟩
      exact h ⟨cs, rfl⟩
    rw [afterBlock, if_neg hmark]

theorem not_hasBlockEnd_cons {c : Char} (h : ¬HasBlockEnd (c :: cs)) :
    ¬['*', '/'] <+: c :: cs ∧ ¬HasBlockEnd cs := by
  rwa [HasBlockEnd, List.infix_cons_iff, not_or] at h

/-- A block comment that is not ended is none, and this happens just when the mark is missing. -/
theorem afterBlock_eq_none_iff : afterBlock cs = none ↔ ¬HasBlockEnd cs := by
  induction cs with
  | nil => simp [afterBlock, HasBlockEnd]
  | cons c cs ih =>
    rw [HasBlockEnd, List.infix_cons_iff, not_or]
    by_cases hmark : ['*', '/'] <+: c :: cs
    · obtain ⟨rest, hrest⟩ := hmark
      rw [← hrest, List.cons_append, List.singleton_append, afterBlock_end]
      simp
    · rw [afterBlock_cons hmark, ih, and_iff_right hmark]

/-- The first mark ends the comment. That there is none before is what `h` says, and the mark does
not overlap the text, since it begins with a star. -/
theorem afterBlock_append (h : ¬HasBlockEnd text) (rest : List Char) :
    afterBlock (text ++ '*' :: '/' :: rest) = some rest := by
  induction text with
  | nil => exact afterBlock_end rest
  | cons c text ih =>
    obtain ⟨hmark, htext⟩ := not_hasBlockEnd_cons h
    have hnone : ¬['*', '/'] <+: c :: (text ++ '*' :: '/' :: rest) := by
      rintro ⟨more, hmore⟩
      cases text with
      | nil => cases hmore
      | cons d text =>
        cases hmore
        exact hmark ⟨text, rfl⟩
    rw [List.cons_append, afterBlock_cons hnone, ih htext]

theorem exists_blockEnd (h : afterBlock cs = some rest) :
    ∃ text, cs = text ++ '*' :: '/' :: rest ∧ ¬HasBlockEnd text := by
  induction cs with
  | nil => cases h
  | cons c cs ih =>
    by_cases hmark : ['*', '/'] <+: c :: cs
    · obtain ⟨after, hafter⟩ := hmark
      rw [← hafter, List.cons_append, List.singleton_append, afterBlock_end] at h
      cases h
      exact ⟨[], by rw [← hafter]; rfl, by simp [HasBlockEnd]⟩
    · rw [afterBlock_cons hmark] at h
      obtain ⟨text, rfl, htext⟩ := ih h
      refine ⟨c :: text, rfl, ?_⟩
      rw [HasBlockEnd, List.infix_cons_iff, not_or]
      refine ⟨?_, htext⟩
      -- A mark at the front would have been the first one.
      rintro ⟨more, hmore⟩
      cases text with
      | nil => cases hmore
      | cons d text =>
        cases hmore
        exact hmark ⟨_, rfl⟩

/-! ## The first piece -/

/-- A piece is cut out of the text by the length of what follows it. -/
theorem upTo_of_append (front rest : List Char) : upTo (front ++ rest) rest = front := by
  simp [upTo]

/-- A character that begins nothing longer is its own piece. -/
theorem nextPiece_single {c : Char} (h : Single c rest) : nextPiece c rest = (.plain c, rest) := by
  unfold nextPiece
  by_cases hquote : c = '\''
  · rw [if_pos hquote, afterLiteral_eq_none_iff.2 (h.quote hquote)]
  · rw [if_neg hquote]
    cases rest with
    | nil => rfl
    | cons d inside =>
      have hdashes : ¬(c = '-' ∧ d = '-') := by
        rintro ⟨hc, rfl⟩
        exact absurd (h.dashes hc '-' rfl) (by decide)
      dsimp only
      rw [if_neg hdashes]
      split
      · next hslash =>
        rw [afterBlock_eq_none_iff.2 (h.slash hslash.1 inside (by rw [hslash.2]))]
      · rfl

/-- What a text was said to begin with is its first piece. So there is at most one thing that it
begins with. -/
theorem Begins.nextPiece_eq {c : Char} (h : Begins (c :: cs) piece rest) :
    nextPiece c cs = (piece, rest) := by
  -- The scan asks for the marks in this order, and each of them rules the others out.
  cases h with
  | literal hclose =>
    have htext : ∀ body : List Char, body ++ '\'' :: rest = body ++ ['\''] ++ rest := by simp
    unfold nextPiece
    rw [if_pos rfl, hclose.afterLiteral_eq]
    dsimp only
    rw [htext, upTo_of_append]
  | line hline hrest =>
    unfold nextPiece
    rw [if_neg (by decide)]
    dsimp only
    rw [if_pos ⟨rfl, rfl⟩, afterLine_append hline hrest, upTo_of_append]
  | @block text _ hblock =>
    have htext : text ++ '*' :: '/' :: rest = text ++ ['*', '/'] ++ rest := by simp
    unfold nextPiece
    rw [if_neg (by decide)]
    dsimp only
    rw [if_neg (by decide), if_pos ⟨rfl, rfl⟩, afterBlock_append hblock]
    dsimp only
    rw [htext, upTo_of_append]
  | plain hsingle => exact nextPiece_single hsingle

/-- Every text begins with some piece. The cases are tried in the order of the scan, and what is
left over is a single character. -/
theorem exists_begins (c : Char) (cs : List Char) : ∃ piece rest, Begins (c :: cs) piece rest := by
  by_cases hquote : c = '\'' ∧ '\'' ∈ cs
  · obtain ⟨rfl, hmem⟩ := hquote
    have hsome : afterLiteral cs ≠ none := fun h => afterLiteral_eq_none_iff.1 h hmem
    obtain ⟨rest, hrest⟩ := Option.ne_none_iff_exists'.1 hsome
    obtain ⟨body, rfl, hclose⟩ := exists_closes hrest
    exact ⟨_, _, .literal hclose⟩
  by_cases hdashes : c = '-' ∧ ∃ line, cs = '-' :: line
  · obtain ⟨rfl, line, rfl⟩ := hdashes
    have htext : '\n' ∉ line.takeWhile (· != '\n') := Text.notMem_takeWhile_ne line
    have hrest : Stops (· != '\n') (line.dropWhile (· != '\n')) := Text.stops_dropWhile line
    rw [← List.takeWhile_append_dropWhile (p := (· != '\n')) (l := line)]
    exact ⟨_, _, .line htext hrest⟩
  by_cases hslash : c = '/' ∧ ∃ inside, cs = '*' :: inside ∧ HasBlockEnd inside
  · obtain ⟨rfl, inside, rfl, hend⟩ := hslash
    have hsome : afterBlock inside ≠ none := fun h => afterBlock_eq_none_iff.1 h hend
    obtain ⟨rest, hrest⟩ := Option.ne_none_iff_exists'.1 hsome
    obtain ⟨text, rfl, htext⟩ := exists_blockEnd hrest
    exact ⟨_, _, .block htext⟩
  -- Nothing longer begins here, which is what the three cases before have left.
  · refine ⟨_, _, .plain ⟨?_, ?_, ?_⟩⟩
    · exact fun hc hmem => hquote ⟨hc, hmem⟩
    · intro hc d hd
      cases cs with
      | nil => cases hd
      | cons e cs =>
        cases hd
        rw [beq_eq_false_iff_ne]
        rintro rfl
        exact hdashes ⟨hc, cs, rfl⟩
    · exact fun hc inside hcs hend => hslash ⟨hc, inside, hcs, hend⟩

theorem begins_nextPiece (c : Char) (cs : List Char) :
    Begins (c :: cs) (nextPiece c cs).1 (nextPiece c cs).2 := by
  obtain ⟨piece, rest, h⟩ := exists_begins c cs
  rw [h.nextPiece_eq]
  exact h

/-! ## All pieces -/

theorem Begins.pieces_eq (h : Begins cs piece rest) : pieces cs = piece :: pieces rest := by
  cases cs with
  | nil => cases h
  | cons c cs => rw [pieces_cons, h.nextPiece_eq]

theorem Begins.strip_eq (h : Begins cs piece rest) : strip cs = piece.kept ++ strip rest := by
  rw [strip, h.pieces_eq, List.flatMap_cons, strip]

theorem Begins.length_lt (h : Begins cs piece rest) : rest.length < cs.length := by
  cases cs with
  | nil => cases h
  | cons c cs =>
    have hle := length_nextPiece_le c cs
    rw [h.nextPiece_eq] at hle
    exact Nat.lt_succ_of_le hle

/-- A text can be gone through piece by piece. Most proofs about stripping are by this induction,
with one case for each kind of piece. -/
theorem pieces_induction {motive : List Char → Prop} (nil : motive [])
    (piece : ∀ {cs piece rest}, Begins cs piece rest → motive rest → motive cs)
    (cs : List Char) : motive cs := by
  induction hlength : cs.length using Nat.strongRecOn generalizing cs with
  | ind n ih =>
    cases cs with
    | nil => exact nil
    | cons c cs =>
      have hbegins := begins_nextPiece c cs
      have hlt := hbegins.length_lt
      rw [hlength] at hlt
      exact piece hbegins (ih _ hlt _ rfl)

@[simp] theorem strip_nil : strip [] = [] := by rw [strip, pieces_nil, List.flatMap_nil]

/-- Stripping is a pass over the text, by induction on its pieces. -/
theorem scans_strip (cs : List Char) : Scans cs (strip cs) := by
  induction cs using pieces_induction with
  | nil => rw [strip_nil]; exact .done
  | piece hbegins ih =>
    rw [hbegins.strip_eq]
    exact .piece hbegins ih

/-- Any pass over the text gives what stripping gives, since the first piece is determined. -/
theorem Scans.strip_eq (h : Scans cs out) : strip cs = out := by
  induction h with
  | done => exact strip_nil
  | piece hbegins _ ih => rw [hbegins.strip_eq, ih]

/-- The pass over a script has one outcome, and stripping gives it. So the pass says all there is to
stripping. -/
theorem strip_eq_iff_scans : strip cs = out ↔ Scans cs out := by
  constructor
  · rintro rfl
    exact scans_strip cs
  · exact Scans.strip_eq

/-! ## Scripts without comments and literals -/

/-- A text in which no literal and no comment can begin. It may hold single dashes and slashes. -/
structure Unmarked (cs : List Char) : Prop where
  quote : '\'' ∉ cs
  dashes : ¬['-', '-'] <:+: cs
  slash : ¬['/', '*'] <:+: cs

instance : Decidable (Unmarked cs) :=
  decidable_of_iff (_ ∧ _ ∧ _)
    ⟨fun h => ⟨h.1, h.2.1, h.2.2⟩, fun h => ⟨h.quote, h.dashes, h.slash⟩⟩

theorem unmarked_of_forall (h : ∀ c ∈ cs, c ≠ '\'' ∧ c ≠ '-' ∧ c ≠ '/') : Unmarked cs where
  quote hmem := (h _ hmem).1 rfl
  dashes hpart := (h '-' (hpart.subset List.mem_cons_self)).2.1 rfl
  slash hpart := (h '/' (hpart.subset List.mem_cons_self)).2.2 rfl

theorem Unmarked.single {c : Char} (h : Unmarked (c :: cs)) : Single c cs where
  quote hc hmem := h.quote (List.mem_cons_of_mem _ hmem)
  dashes hc := by
    subst hc
    cases cs with
    | nil => exact stops_nil
    | cons d cs =>
      refine stops_cons (beq_eq_false_iff_ne.2 ?_)
      rintro rfl
      exact h.dashes ⟨[], cs, rfl⟩
  slash hc inside hcs _ := h.slash ⟨[], inside, by rw [hc, hcs]; rfl⟩

theorem Unmarked.tail {c : Char} (h : Unmarked (c :: cs)) : Unmarked cs where
  quote hmem := h.quote (List.mem_cons_of_mem _ hmem)
  dashes hpart := h.dashes (hpart.trans (List.suffix_cons _ _).isInfix)
  slash hpart := h.slash (hpart.trans (List.suffix_cons _ _).isInfix)

/-- In such a text there is nothing to strip, and it is its own stripped form. -/
theorem Unmarked.strip_eq (h : Unmarked cs) : strip cs = cs := by
  induction cs with
  | nil => exact strip_nil
  | cons c cs ih =>
    rw [(Begins.plain h.single).strip_eq, ih h.tail]
    rfl

end SchemaSeed.Script
