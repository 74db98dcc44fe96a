import SchemaSeed.Proofs.Script.Scan
import SchemaSeed.Sql.Literal

/-!
# Literals that were written

A text is written as a literal by doubling its quotes, so between the outer quotes they
come in pairs (`paired_escape`). The scan of a script therefore reads a written literal up to
its last quote and no further, unless the text behind it goes on with a literal of its own:
then the two are read as one, and as nothing is taken out of either, what is left of the script
is the same. The main statement is `stripComments_literalText`.
-/

namespace SchemaSeed.Script

open Text (Stops stops_nil stops_cons)

variable {rest : List Char}

/-! ## The inside of a written literal -/

/-- Each quote of a text is written twice, so they come in pairs. -/
theorem paired_escape (cs : List Char) : Paired (Sql.escape cs) := by
  induction cs with
  | nil => exact .nil
  | cons c cs ih =>
    rw [Sql.escape, List.flatMap_cons, ← Sql.escape]
    split
    · exact .pair ih
    · next hc => exact .plain hc ih

theorem quote_append (cs rest : List Char) :
    Sql.quote cs ++ rest = '\'' :: (Sql.escape cs ++ '\'' :: rest) := by
  rw [Sql.quote, List.cons_append, List.cons_append, List.append_assoc, List.singleton_append]

/-! ## What follows a written literal -/

/-- A literal begins here: a quote, and another one somewhere behind it. Without the second one, the
quote stands for itself. -/
def OpensLiteral (cs : List Char) : Prop := ∃ tail, cs = '\'' :: tail ∧ '\'' ∈ tail

/-- Where no other literal comes at once, a written one is a piece of its own. -/
theorem begins_quote (cs : List Char) (hrest : ¬OpensLiteral rest) :
    Begins (Sql.quote cs ++ rest) (.literal (Sql.quote cs)) rest := by
  rw [quote_append]
  refine .literal ?_
  cases rest with
  | nil => exact .single (paired_escape cs) stops_nil
  | cons c tail =>
    by_cases hc : c = '\''
    · -- The scan takes this quote for the second one of a pair, but has to give it back.
      subst hc
      exact .lastPair (paired_escape cs) fun hmem => hrest ⟨tail, rfl, hmem⟩
    · exact .single (paired_escape cs) (stops_cons (beq_eq_false_iff_ne.2 hc))

/-- Where one comes at once, the last quote of the written literal and the first one of the other
are read as a pair, and both literals as one. All of it is kept, so that this makes no difference to
what is executed. -/
theorem exists_begins_quote (cs : List Char) (hrest : OpensLiteral rest) :
    ∃ more after, Begins rest (.literal more) after ∧
      Begins (Sql.quote cs ++ rest) (.literal (Sql.quote cs ++ more)) after := by
  obtain ⟨tail, rfl, hmem⟩ := hrest
  have hsome : afterLiteral tail ≠ none := fun h => afterLiteral_eq_none_iff.1 h hmem
  obtain ⟨after, hafter⟩ := Option.ne_none_iff_exists'.1 hsome
  obtain ⟨body, rfl, hclose⟩ := exists_closes hafter
  refine ⟨_, after, .literal hclose, ?_⟩
  have hjoined : Closes (Sql.escape cs ++ '\'' :: '\'' :: body) after :=
    hclose.of_paired ((paired_escape cs).append (.pair hclose.paired))
  have hbegins := Begins.literal hjoined
  simpa [quote_append, Sql.quote] using hbegins

/-- A written literal is kept as it is, and the rest of the script is read as if it stood alone.
Both cases above end in the same text. -/
theorem strip_quote_append (cs rest : List Char) :
    strip (Sql.quote cs ++ rest) = Sql.quote cs ++ strip rest := by
  by_cases hrest : OpensLiteral rest
  · obtain ⟨more, after, hmore, hjoined⟩ := exists_begins_quote cs hrest
    rw [hjoined.strip_eq, hmore.strip_eq]
    exact List.append_assoc _ _ _
  · rw [(begins_quote cs hrest).strip_eq]
    rfl

/-- It is one piece of the script exactly when no other literal comes at once. Otherwise the first
piece is longer than the literal. -/
theorem pieces_quote_append_iff (cs rest : List Char) :
    pieces (Sql.quote cs ++ rest) = .literal (Sql.quote cs) :: pieces rest ↔
      ¬OpensLiteral rest := by
  constructor
  · intro h hrest
    obtain ⟨more, after, hmore, hjoined⟩ := exists_begins_quote cs hrest
    rw [hjoined.pieces_eq, List.cons.injEq, Piece.literal.injEq, List.append_right_eq_self] at h
    obtain ⟨rfl, -⟩ := h
    cases hmore
  · intro hrest
    exact (begins_quote cs hrest).pieces_eq

/-- A text that was written as a literal is found by the scan as it was written: removing the
comments of a script that begins with it leaves it alone and does to the rest what is done to the
rest on its own. It is a piece of its own exactly when no other literal follows at once, and so
whenever no quote does. -/
theorem stripComments_literalText (s t : String) :
    stripComments (Sql.literalText (.string s) ++ t) =
        Sql.literalText (.string s) ++ stripComments t ∧
      (pieces (Sql.literalText (.string s) ++ t).toList =
          .literal (Sql.literalText (.string s)).toList :: pieces t.toList ↔
        ¬OpensLiteral t.toList) := by
  have htext : (Sql.literalText (.string s)).toList = Sql.quote s.toList := by
    rw [Sql.literalText, String.toList_ofList]
    rfl
  constructor
  · rw [stripComments, stripComments, String.toList_append, htext, strip_quote_append,
      String.ofList_append]
    rfl
  · rw [String.toList_append, htext]
    exact pieces_quote_append_iff s.toList t.toList

/-- A text with quotes at both ends and the marks of comments in it, before a comment. -/
example :
    let s := "'-- it's /* no"
    let t := "-- '*/ yes\n;"
    stripComments (Sql.literalText (.string s) ++ t) = "'''-- it''s /* no' \n;" := by
  decide +kernel

end SchemaSeed.Script
