import SchemaSeed.Proofs.Script.Scan
import SchemaSeed.Proofs.Text.Split
import SchemaSeed.Script.Declaration

/-!
# Scripts put together

A script is closed when every literal and every comment in it is ended. What follows a
closed script is read as if it stood alone (`Closed.strip_append`), because the scan for
pieces never looks back over the end of a piece. So the facts and the statements of two
scripts with a semicolon between them are those of the one and then those of the other, and
a comment between them counts as a blank, whatever is in it. The main statement is
`closed_scripts_compose`.
-/

namespace SchemaSeed.Script

open Text (Stops stops_cons)

variable {as bs cs rest text : List Char} {piece : Piece}

def Piece.isLine : Piece → Bool
  | .comment ('-' :: _) => true
  | _ => false

/-- A text in which every literal and every comment is ended. It is stated of the pieces that the
scan finds, where whatever is left open shows as single characters, and it can be decided by a scan.
-/
structure Closed (cs : List Char) : Prop where
  /-- No quote was left over. -/
  quote : .plain '\'' ∉ pieces cs
  /-- No opening mark of a block comment was left over. -/
  slash : ¬[.plain '/', .plain '*'] <:+: pieces cs
  /-- The text does not end inside a line comment. -/
  line : ∀ piece ∈ (pieces cs).getLast?, piece.isLine = false

instance : Decidable (Closed cs) :=
  decidable_of_iff (_ ∧ _ ∧ _)
    ⟨fun h => ⟨h.1, h.2.1, h.2.2⟩, fun h => ⟨h.quote, h.slash, h.line⟩⟩

/-! ## Closed texts piece by piece -/

/-- What follows a piece of a closed text is closed. The pieces of the rest are among those of the
text, so that each condition carries over. -/
theorem Closed.after (h : Closed cs) (hbegins : Begins cs piece rest) : Closed rest := by
  obtain ⟨hquote, hslash, hline⟩ := h
  rw [hbegins.pieces_eq] at hquote hslash hline
  refine ⟨fun hmem => hquote (List.mem_cons_of_mem _ hmem),
    fun hpart => hslash (hpart.trans (List.suffix_cons _ _).isInfix), fun last hlast => ?_⟩
  apply hline
  rw [List.getLast?_cons, hlast]
  rfl

/-- A quote that stands for itself is one whose literal was never closed. -/
theorem Closed.ne_quote {c : Char} (h : Closed cs) (hbegins : Begins cs (.plain c) rest) :
    c ≠ '\'' := by
  rintro rfl
  apply h.quote
  rw [hbegins.pieces_eq]
  exact List.mem_cons_self

/-- A star never begins a piece of its own, so it is the next piece after a slash. -/
theorem Closed.ne_slash {c : Char} (h : Closed cs) (hbegins : Begins cs (.plain c) ('*' :: rest)) :
    c ≠ '/' := by
  have hstar : Single '*' rest := single_of_ne (by decide) rest
  rintro rfl
  apply h.slash
  rw [hbegins.pieces_eq, (Begins.plain hstar).pieces_eq]
  exact ⟨[], pieces rest, rfl⟩

/-- A line comment needs a line feed behind it, or it would take in the text that is put there. -/
theorem Closed.rest_ne_nil (h : Closed cs) (hbegins : Begins cs piece rest)
    (hpiece : piece.isLine = true) : rest ≠ [] := by
  rintro rfl
  have hlast := h.line piece
  rw [hbegins.pieces_eq, pieces_nil] at hlast
  rw [hlast rfl] at hpiece
  cases hpiece

/-- A literal of a closed text is closed by a quote outside a pair: otherwise the second
quote of the last pair would be left over. -/
theorem Closed.mem_of_quote {tail : List Char} (h : Closed ('\'' :: tail)) : '\'' ∈ tail := by
  by_contra hnone
  have hsingle : Single '\'' tail :=
    ⟨fun _ => hnone, fun hc => absurd hc (by decide), fun hc => absurd hc (by decide)⟩
  exact h.ne_quote (.plain hsingle) rfl

/-! ## What follows a closed text -/

/-- No comment begins with the last character of one text and the first of another. A dash or a
slash at the end of the first needs another mark at the beginning of the second. -/
def StartsAfresh (cs : List Char) : Prop := Stops (fun c => c == '-' || c == '*') cs

/-- A piece of a closed text stays what it is whatever follows the text, unless it is a literal that
goes on. Each kind of piece has its own way to be ended, and its own danger from behind. -/
theorem Begins.append (hbegins : Begins as piece rest) (has : Closed as) (hbs : StartsAfresh bs)
    (hliteral : ∀ text, piece = .literal text → rest = [] → Stops (· == '\'') bs) :
    Begins (as ++ bs) piece (rest ++ bs) := by
  have hrest := has.after hbegins
  cases hbegins with
  | @literal body rest hclose =>
    -- A quote in `bs` can still pair with the last one of `rest` only if `rest` is empty.
    have hpair : ∀ tail, rest = '\'' :: tail → '\'' ∈ tail := by
      rintro tail rfl
      exact hrest.mem_of_quote
    have htext : '\'' :: (body ++ '\'' :: rest) ++ bs = '\'' :: (body ++ '\'' :: (rest ++ bs)) := by
      simp
    rw [htext]
    exact .literal (hclose.append hpair (hliteral _ rfl))
  -- A line comment ends at its line feed, which a closed text has within it.
  | @line text rest hline hend =>
    have hne := has.rest_ne_nil (.line hline hend) rfl
    have hstop : Stops (· != '\n') (rest ++ bs) := by
      cases rest with
      | nil => exact absurd rfl hne
      | cons c rest => exact stops_cons (hend c rfl)
    have htext : '-' :: '-' :: (text ++ rest) ++ bs = '-' :: '-' :: (text ++ (rest ++ bs)) := by simp
    rw [htext]
    exact .line hline hstop
  | @block text rest hblock =>
    have htext : '/' :: '*' :: (text ++ '*' :: '/' :: rest) ++ bs =
        '/' :: '*' :: (text ++ '*' :: '/' :: (rest ++ bs)) := by simp
    rw [htext]
    exact .block hblock
  -- A single character could only begin a comment together with the first character of `bs`.
  | @plain c rest hsingle =>
    refine .plain ⟨fun hc => absurd hc (has.ne_quote (.plain hsingle)), fun hc => ?_, ?_⟩
    · cases rest with
      | nil =>
        intro d hd
        have hfresh := hbs d hd
        simp only [Bool.or_eq_false_iff] at hfresh
        exact hfresh.1
      | cons d rest => exact stops_cons (hsingle.dashes hc d rfl)
    · rintro rfl inside hinside
      cases rest with
      | nil =>
        have hstar : bs = '*' :: inside := hinside
        have hfresh := hbs '*' (by rw [hstar]; rfl)
        cases hfresh
      | cons d rest =>
        cases hinside
        exact absurd rfl (has.ne_slash (.plain hsingle))

/-- What follows a closed text is read as if it stood alone. By induction on the pieces of the first
text, each of which is still the first one when the other text follows. -/
theorem Closed.strip_append (has : Closed as) (hbs : StartsAfresh bs)
    (hquote : Stops (· == '\'') bs) : strip (as ++ bs) = strip as ++ strip bs := by
  induction as using pieces_induction with
  | nil => rw [strip_nil]; rfl
  | piece hbegins ih =>
    have hmore := hbegins.append has hbs fun _ _ _ => hquote
    rw [hmore.strip_eq, hbegins.strip_eq, ih (has.after hbegins), List.append_assoc]

/-- A character that stands for itself is kept, and what follows it is stripped on its own. -/
theorem strip_single {c : Char} (h : Single c rest) : strip (c :: rest) = c :: strip rest := by
  rw [(Begins.plain h).strip_eq]
  rfl

/-- A semicolon outside of literals and comments is kept, and ends nothing but a statement. -/
theorem Closed.strip_semicolon (has : Closed as) (bs : List Char) :
    strip (as ++ ';' :: bs) = strip as ++ ';' :: strip bs := by
  rw [has.strip_append (stops_cons rfl) (stops_cons rfl), strip_single (single_of_ne (by decide) bs)]

theorem Closed.strip_blank (has : Closed as) (bs : List Char) :
    strip (as ++ ' ' :: bs) = strip as ++ ' ' :: strip bs := by
  rw [has.strip_append (stops_cons rfl) (stops_cons rfl), strip_single (single_of_ne (by decide) bs)]

/-- A block comment is replaced by one blank, whatever is in it. Its own end must be the first one,
hence `htext`. -/
theorem Closed.strip_comment (has : Closed as) (htext : ¬HasBlockEnd text) (bs : List Char) :
    strip (as ++ '/' :: '*' :: (text ++ '*' :: '/' :: bs)) = strip as ++ ' ' :: strip bs := by
  rw [has.strip_append (stops_cons rfl) (stops_cons rfl), (Begins.block htext).strip_eq]
  rfl

/-! ## Scripts with a semicolon or a comment between them -/

/-- A semicolon that is left after stripping ends a statement, and so the lists of statements are
put together. -/
theorem statements_append (as bs : List Char) :
    statements (as ++ ';' :: bs) = statements as ++ statements bs := by
  rw [statements, Text.split_append_separator, List.map_append, List.filter_append]
  rfl

/-- What a run issues, in terms of the text that is left when the comments are gone. -/
theorem splitStatements_stripComments (script : String) :
    splitStatements (stripComments script) =
      (statements (strip script.toList)).map String.ofList := by
  rw [splitStatements, stripComments, String.toList_ofList]

/-- Behind a closed script `a`, a semicolon puts the facts and the statements of another
script after its own, and a comment is as good as a blank. -/
theorem closed_scripts_compose {a : String} (ha : Closed a.toList) (b : String) :
    extractDependencies (a ++ ";" ++ b) =
        extractDependencies a ++ extractDependencies b ∧
      splitStatements (stripComments (a ++ ";" ++ b)) =
        splitStatements (stripComments a) ++
          splitStatements (stripComments b) ∧
      ∀ c : String, ¬HasBlockEnd c.toList →
        extractDependencies (a ++ "/*" ++ c ++ "*/" ++ b) =
            extractDependencies (a ++ " " ++ b) ∧
          splitStatements (stripComments (a ++ "/*" ++ c ++ "*/" ++ b)) =
            splitStatements (stripComments (a ++ " " ++ b)) := by
  -- Both conclusions are read off the stripped text, in which the semicolon is the only mark
  -- between the two.
  have hsemicolon : strip (a ++ ";" ++ b).toList =
      strip a.toList ++ ';' :: strip b.toList := by
    rw [← ha.strip_semicolon]
    simp
  refine ⟨?_, ?_, fun c hc => ?_⟩
  · rw [extractDependencies, hsemicolon, statements_append, List.filterMap_append]
    rfl
  · rw [splitStatements_stripComments, hsemicolon, statements_append,
      List.map_append, splitStatements_stripComments, splitStatements_stripComments]
  · have hcomment : strip (a ++ "/*" ++ c ++ "*/" ++ b).toList =
        strip (a ++ " " ++ b).toList := by
      have hblank := ha.strip_blank b.toList
      rw [← ha.strip_comment hc] at hblank
      simpa using hblank.symm
    rw [extractDependencies, extractDependencies,
      splitStatements_stripComments, splitStatements_stripComments, hcomment]
    exact ⟨rfl, rfl⟩

/-- A literal with a quote and the marks of comments in it, and a line comment; a comment
with a quote, a semicolon and the beginning of a table in it. -/
theorem closed_scripts_compose_notes :
    let a := "CREATE TABLE notes (body TEXT DEFAULT '/* it''s -- no') -- 'yes\n"
    let b := "CREATE TABLE tags (note INT, FOREIGN KEY (note) REFERENCES notes)"
    let c := "'; CREATE TABLE ghosts ("
    Closed a.toList ∧ ¬HasBlockEnd c.toList ∧
      extractDependencies (a ++ ";" ++ b) =
        extractDependencies a ++ extractDependencies b ∧
      splitStatements (stripComments (a ++ ";" ++ b)) =
        splitStatements (stripComments a) ++
          splitStatements (stripComments b) ∧
      extractDependencies (a ++ "/*" ++ c ++ "*/" ++ b) =
        extractDependencies (a ++ " " ++ b) ∧
      splitStatements (stripComments (a ++ "/*" ++ c ++ "*/" ++ b)) =
        splitStatements (stripComments (a ++ " " ++ b)) := by
  intro a b c
  have ha : Closed a.toList := by decide +kernel
  have hc : ¬HasBlockEnd c.toList := by decide +kernel
  have hcompose := closed_scripts_compose ha b
  exact ⟨ha, hc, hcompose.1, hcompose.2.1, hcompose.2.2 c hc⟩

end SchemaSeed.Script
