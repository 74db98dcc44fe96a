import SchemaSeed.Proofs.Script.Composition

/-!
# Stripped scripts

A script without its comments has the pieces that it had before, with a blank in the place of
each comment (`pieces_strip`). What a comment kept apart the blank keeps apart as well, so no
literal and no comment begins that was not there, and no literal ends elsewhere. Stripping a
second time changes nothing: the facts of a script are those of its stripped text, and of the
statements that are executed (`stripComments_idempotent`).
-/

namespace SchemaSeed.Script

open Text (Stops stops_cons)

variable {cs rest : List Char} {piece : Piece}

/-- The piece that stands in a stripped text for a piece of the text. -/
def Piece.blanked : Piece → Piece
  | .comment _ => .plain ' '
  | piece => piece

theorem Piece.kept_blanked (piece : Piece) : piece.blanked.kept = piece.kept := by
  cases piece <;> rfl

/-! ## Characters of stripped texts -/

theorem mem_strip {c : Char} (h : c ∈ strip cs) : c = ' ' ∨ c ∈ cs := by
  obtain ⟨piece, hpiece, hc⟩ := List.mem_flatMap.1 h
  rw [← flatMap_text_pieces cs, List.mem_flatMap]
  cases piece with
  | literal text => exact .inr ⟨_, hpiece, hc⟩
  | comment text => exact .inl (List.mem_singleton.1 hc)
  | plain d => exact .inr ⟨_, hpiece, hc⟩

theorem notMem_strip {c : Char} (hc : c ≠ ' ') (h : c ∉ cs) : c ∉ strip cs :=
  fun hmem => (mem_strip hmem).elim hc h

/-- A stripped text begins like the text, or with a blank. So what a text does not go on with, the
stripped one does not, either. -/
theorem stops_strip {p : Char → Bool} (hblank : p ' ' = false) (h : Stops p cs) :
    Stops p (strip cs) := by
  cases cs with
  | nil =>
    rw [strip_nil]
    exact h
  | cons c cs =>
    have hbegins := begins_nextPiece c cs
    generalize (nextPiece c cs).1 = piece, (nextPiece c cs).2 = rest at hbegins
    rw [hbegins.strip_eq]
    cases hbegins with
    | literal _ => exact stops_cons (h _ rfl)
    | line _ _ => exact stops_cons hblank
    | block _ => exact stops_cons hblank
    | plain _ => exact stops_cons (h _ rfl)

/-- A character of a stripped text that is no blank and no quote stood in the text. A blank may come
from a comment, and a quote begins a literal. -/
theorem exists_of_strip_eq_cons {c : Char} {inside : List Char} (h : strip cs = c :: inside)
    (hblank : c ≠ ' ') (hquote : c ≠ '\'') : ∃ tail, cs = c :: tail ∧ inside = strip tail := by
  cases cs with
  | nil =>
    rw [strip_nil] at h
    cases h
  | cons d cs =>
    have hbegins := begins_nextPiece d cs
    generalize (nextPiece d cs).1 = piece, (nextPiece d cs).2 = rest at hbegins
    rw [hbegins.strip_eq] at h
    cases hbegins with
    | literal _ => exact absurd (List.cons.inj h).1.symm hquote
    | line _ _ => exact absurd (List.cons.inj h).1.symm hblank
    | block _ => exact absurd (List.cons.inj h).1.symm hblank
    | plain _ =>
      obtain ⟨rfl, rfl⟩ := List.cons.inj h
      exact ⟨_, rfl, rfl⟩

/-! ## Marks of stripped texts -/

/-- The mark that ends a block comment does not reach over any other character, so it stands on one
side of it. -/
theorem hasBlockEnd_append_cons (as : List Char) {c : Char} (hstar : c ≠ '*') (hslash : c ≠ '/')
    {bs : List Char} : HasBlockEnd (as ++ c :: bs) ↔ HasBlockEnd as ∨ HasBlockEnd bs := by
  induction as with
  | nil =>
    have hnone : ¬['*', '/'] <+: c :: bs := fun ⟨_, h⟩ => hstar (List.cons.inj h).1.symm
    simp [HasBlockEnd, List.infix_cons_iff, hnone]
  | cons a as ih =>
    have hmark : ['*', '/'] <+: a :: (as ++ c :: bs) ↔ ['*', '/'] <+: a :: as := by
      cases as with
      | nil => simp [List.cons_prefix_cons, Ne.symm hslash]
      | cons d as => simp [List.cons_prefix_cons]
    have hcons : ∀ ds, HasBlockEnd (a :: ds) ↔ ['*', '/'] <+: a :: ds ∨ HasBlockEnd ds :=
      fun _ => List.infix_cons_iff
    rw [List.cons_append, hcons, hcons, hmark, ih, or_assoc]

/-- No mark is put together out of characters that a comment kept apart. This is why a comment is
replaced by a blank and not dropped. -/
theorem hasBlockEnd_of_strip (h : HasBlockEnd (strip cs)) : HasBlockEnd cs := by
  induction cs using pieces_induction with
  | nil => rwa [strip_nil] at h
  | @piece cs piece rest hbegins ih =>
    rw [hbegins.strip_eq] at h
    -- A blank is not part of a mark, so that the mark stands behind it.
    have hblank : HasBlockEnd (' ' :: strip rest) → HasBlockEnd rest := fun h =>
      ih (((hasBlockEnd_append_cons [] (by decide) (by decide)).1 h).resolve_left
        (by simp [HasBlockEnd]))
    cases hbegins with
    | @literal body _ _ =>
      -- The quote at the end of the literal keeps what is before it from what is behind it.
      have htext : '\'' :: (body ++ ['\'']) ++ strip rest =
          '\'' :: body ++ '\'' :: strip rest := by simp
      change HasBlockEnd ('\'' :: (body ++ ['\'']) ++ strip rest) at h
      rw [htext, hasBlockEnd_append_cons _ (by decide) (by decide)] at h
      have hmarks : HasBlockEnd ('\'' :: body ++ '\'' :: rest) ↔
          HasBlockEnd ('\'' :: body) ∨ HasBlockEnd rest :=
        hasBlockEnd_append_cons _ (by decide) (by decide)
      exact hmarks.2 (h.imp_right ih)
    | @line text _ _ _ =>
      exact (hblank h).trans (List.suffix_append ('-' :: '-' :: text) rest).isInfix
    | @block text _ _ =>
      have hsuffix := List.suffix_append ('/' :: '*' :: (text ++ ['*', '/'])) rest
      rw [List.cons_append, List.cons_append, List.append_assoc] at hsuffix
      exact (hblank h).trans hsuffix.isInfix
    | @plain c _ _ =>
      rcases List.infix_cons_iff.1 h with ⟨more, hmore⟩ | h
      · -- The slash after the star stood there before.
        obtain ⟨rfl, hslash⟩ := List.cons.inj hmore
        obtain ⟨tail, rfl, -⟩ := exists_of_strip_eq_cons hslash.symm (by decide) (by decide)
        exact ⟨[], tail, rfl⟩
      · exact (ih h).trans (List.suffix_cons c rest).isInfix

/-! ## Pieces of stripped texts -/

/-- A literal ends at the same quote when what follows it is stripped. -/
theorem Closes.strip {body : List Char} (h : Closes body rest) : Closes body (strip rest) := by
  cases h with
  | single hbody hrest => exact .single hbody (stops_strip (by decide) hrest)
  | @lastPair tail hbody htail =>
    have hsingle : Single '\'' tail :=
      ⟨fun _ => htail, fun hc => absurd hc (by decide), fun hc => absurd hc (by decide)⟩
    rw [strip_single hsingle]
    exact .lastPair hbody (notMem_strip (by decide) htail)

/-- And a character that stood for itself still does. -/
theorem Single.strip {c : Char} (h : Single c rest) : Single c (strip rest) where
  quote hc := notMem_strip (by decide) (h.quote hc)
  dashes hc := stops_strip (by decide) (h.dashes hc)
  slash hc inside hinside hend := by
    obtain ⟨tail, rfl, rfl⟩ := exists_of_strip_eq_cons hinside (by decide) (by decide)
    exact h.slash hc tail rfl (hasBlockEnd_of_strip hend)

/-- A stripped text begins with what is left of the first piece of the text. One case for each kind
of piece. -/
theorem Begins.strip (h : Begins cs piece rest) :
    Begins (strip cs) piece.blanked (Script.strip rest) := by
  rw [h.strip_eq]
  cases h with
  | @literal body _ hclose =>
    have htext : '\'' :: (body ++ ['\'']) ++ Script.strip rest =
        '\'' :: (body ++ '\'' :: Script.strip rest) := by simp
    change Begins ('\'' :: (body ++ ['\'']) ++ Script.strip rest) _ _
    rw [htext]
    exact .literal hclose.strip
  | line _ _ => exact .plain (single_of_ne (by decide) _)
  | block _ => exact .plain (single_of_ne (by decide) _)
  | plain hsingle => exact .plain hsingle.strip

/-- Stripping leaves no comment, and everything else as it was. By induction on the pieces of the
text. -/
theorem pieces_strip (cs : List Char) : pieces (strip cs) = (pieces cs).map Piece.blanked := by
  induction cs using pieces_induction with
  | nil => simp
  | piece hbegins ih => rw [hbegins.strip.pieces_eq, hbegins.pieces_eq, List.map_cons, ih]

theorem strip_strip (cs : List Char) : strip (strip cs) = strip cs := by
  rw [strip, pieces_strip, List.flatMap_map, strip]
  simp only [Piece.kept_blanked]

/-! ## Stripped scripts -/

/-- Stripping a script again changes nothing. So the facts of a script are those of the stripped
one, and each of them is what a statement says that is executed. A statement on its own cannot hide
a comment that the script did not have. -/
theorem stripComments_idempotent (script : String) :
    stripComments (stripComments script) = stripComments script ∧
      extractDependencies (stripComments script) = extractDependencies script ∧
      extractDependencies script =
        (splitStatements (stripComments script)).filterMap fun s => statementFact s.toList := by
  have hstrip : strip (stripComments script).toList = strip script.toList := by
    rw [stripComments, String.toList_ofList, strip_strip]
  refine ⟨?_, ?_, ?_⟩
  · rw [stripComments, hstrip, stripComments]
  · rw [extractDependencies, hstrip, extractDependencies]
  · rw [extractDependencies, splitStatements_stripComments, List.filterMap_map]
    simp only [Function.comp_def, String.toList_ofList]

/-- Dashes and the marks of a block comment, kept apart by comments. -/
example : stripComments "-/**/- /--\n* 'it''--'' */" = "- - / \n* 'it''--'' */" := by
  decide +kernel

end SchemaSeed.Script
