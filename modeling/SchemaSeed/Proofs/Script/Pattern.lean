import SchemaSeed.Proofs.Script.Scan

/-!
# The pattern for comments and literals

A pattern is given by its matches at the front of a text, in the order in which a
backtracking matcher comes to them; the first one counts. `commentOrLiteral` is the pattern

    '(?:[^']|'')*'|--[^\n]*|/\*.*?\*/

in which a dot stands for any character, and `replaceAll` looks for a pattern from left to
right. What a backtracking matcher tries and gives up is all in here: the repetition in a
literal can read two quotes as a pair or stop before them, and the one in a block comment
can go on or stop anywhere.

The scan for pieces tries nothing twice. `replaceAll_eq_strip` says that it finds the same,
and `stripComments_eq_iff_scans` says once more in one pass what that is.
-/

namespace SchemaSeed.Script

open Text (Stops stops_cons)

variable {rest text cs : List Char} {piece : Piece}

/-- What follows each match of a pattern at the front of a text, the preferred one first. -/
abbrev Pattern := List Char → List (List Char)

namespace Pattern

def one (p : Char → Bool) : Pattern
  | [] => []
  | c :: rest => if p c then [rest] else []

def andThen (p q : Pattern) : Pattern := fun cs => (p cs).flatMap q

/-- One pattern or, failing that, another. All matches of the first come before those of the second,
which is what makes the order of alternatives matter. -/
def orElse (p q : Pattern) : Pattern := fun cs => p cs ++ q cs

def exactly : List Char → Pattern
  | [] => fun cs => [cs]
  | c :: text => (one (· == c)).andThen (exactly text)

/-- The matches that take something, which are those that may be repeated. They carry the proof by
which the repetitions end. -/
def shorter (p : Pattern) (cs : List Char) : List { rest : List Char // rest.length < cs.length } :=
  (p cs).filterMap fun rest => if h : rest.length < cs.length then some ⟨rest, h⟩ else none

/-- A pattern as often as possible. The longest repetition is tried first, and doing without comes
last. -/
def many (p : Pattern) (cs : List Char) : List (List Char) :=
  (p.shorter cs).flatMap (fun rest => many p rest.1) ++ [cs]
termination_by cs.length
decreasing_by exact rest.2

/-- A pattern as seldom as possible, where doing without comes first. -/
def few (p : Pattern) (cs : List Char) : List (List Char) :=
  cs :: (p.shorter cs).flatMap fun rest => few p rest.1
termination_by cs.length
decreasing_by exact rest.2

/-- A text in which each match of a pattern is replaced, from left to right. A match that
takes nothing is passed over. -/
def replaceAll (p : Pattern) (replacement : List Char → List Char) : List Char → List Char
  | [] => []
  | c :: cs =>
    match (p (c :: cs)).head? with
    | none => c :: replaceAll p replacement cs
    | some rest =>
      if _h : rest.length < (c :: cs).length then
        replacement (upTo (c :: cs) rest) ++ replaceAll p replacement rest
      else c :: replaceAll p replacement cs
termination_by cs => cs.length
decreasing_by
  · exact Nat.lt_succ_self _
  · exact _h
  · exact Nat.lt_succ_self _

/-! ## What each part finds -/

variable {p : Pattern} {replacement : List Char → List Char}

theorem exactly_append (text rest : List Char) : exactly text (text ++ rest) = [rest] := by
  induction text with
  | nil => rfl
  | cons c text ih =>
    rw [exactly, andThen, List.cons_append, one, if_pos (beq_self_eq_true c)]
    simpa using ih

/-- Where the text does not stand, there is no match. By induction on the text, one character at a
time. -/
theorem exactly_eq_nil (h : ¬text <+: cs) : exactly text cs = [] := by
  induction text generalizing cs with
  | nil => exact absurd List.nil_prefix h
  | cons c text ih =>
    cases cs with
    | nil => rfl
    | cons d cs =>
      rw [exactly, andThen, one]
      split
      · next hd =>
        cases eq_of_beq hd
        have hcs : ¬text <+: cs := fun hprefix => h (List.cons_prefix_cons.2 ⟨rfl, hprefix⟩)
        simpa using ih hcs
      · rfl

/-- Where a pattern does not match, it is repeated no times. -/
theorem many_of_eq_nil (h : p cs = []) : many p cs = [cs] := by
  rw [many, shorter, h]
  rfl

/-- Where a pattern matches in one way, this is tried before it is done without. -/
theorem many_of_eq_singleton (h : p cs = [rest]) (hlt : rest.length < cs.length) :
    many p cs = many p rest ++ [cs] := by
  rw [many, shorter, h, List.filterMap_cons_some (dif_pos hlt)]
  simp

theorem few_of_eq_nil (h : p cs = []) : few p cs = [cs] := by
  rw [few, shorter, h]
  rfl

/-- If there is one way to go on, it is tried after all that is found by stopping here. -/
theorem few_of_eq_singleton (h : p cs = [rest]) (hlt : rest.length < cs.length) :
    few p cs = cs :: few p rest := by
  rw [few, shorter, h, List.filterMap_cons_some (dif_pos hlt)]
  simp

theorem one_of_pos {class? : Char → Bool} {c : Char} (h : class? c = true) (cs : List Char) :
    one class? (c :: cs) = [cs] := if_pos h

theorem one_of_neg {class? : Char → Bool} {c : Char} (h : class? c = false) (cs : List Char) :
    one class? (c :: cs) = [] := if_neg (by simp [h])

/-- A class as often as possible takes all its characters at first. -/
theorem head?_many_one (class? : Char → Bool) (cs : List Char) :
    (many (one class?) cs).head? = some (cs.dropWhile class?) := by
  induction cs with
  | nil => rw [many_of_eq_nil rfl]; rfl
  | cons c cs ih =>
    cases hc : class? c with
    | true =>
      rw [many_of_eq_singleton (one_of_pos hc cs) (Nat.lt_succ_self _), List.head?_append, ih,
        List.dropWhile_cons_of_pos hc]
      rfl
    | false =>
      rw [many_of_eq_nil (one_of_neg hc cs), List.dropWhile_cons_of_neg (by simp [hc])]
      rfl

theorem replaceAll_of_none {c : Char} (h : (p (c :: cs)).head? = none) :
    replaceAll p replacement (c :: cs) = c :: replaceAll p replacement cs := by
  rw [replaceAll, h]

/-- The preferred match is replaced, and the search goes on behind it. -/
theorem replaceAll_of_some (h : (p cs).head? = some rest) (hlt : rest.length < cs.length) :
    replaceAll p replacement cs =
      replacement (upTo cs rest) ++ replaceAll p replacement rest := by
  cases cs with
  | nil => exact absurd hlt (Nat.not_lt_zero _)
  | cons c cs =>
    rw [replaceAll, h]
    exact dif_pos hlt

/-! ## Comments and literals -/

/-- What may be repeated inside a literal: a character that is no quote, or two quotes. -/
def inside : Pattern := orElse (one (· != '\'')) (exactly ['\'', '\''])

def closing : Pattern := andThen (many inside) (one (· == '\''))

def ending : Pattern := andThen (few (one fun _ => true)) (exactly ['*', '/'])

/-- The pattern for literals, line comments and block comments. -/
def commentOrLiteral : Pattern :=
  orElse (andThen (one (· == '\'')) closing) <|
    orElse (andThen (exactly ['-', '-']) (many (one (· ≠ '\n')))) <|
      andThen (exactly ['/', '*']) ending

/-- A character that is no quote is matched by the first alternative only. -/
theorem inside_plain {c : Char} (hc : c ≠ '\'') (cs : List Char) : inside (c :: cs) = [cs] := by
  have hpair : exactly ['\'', '\''] (c :: cs) = [] := by
    apply exactly_eq_nil
    intro hprefix
    exact hc (List.cons_prefix_cons.1 hprefix).1.symm
  rw [inside, orElse, hpair, one_of_pos (by simpa using hc)]
  rfl

/-- A pair of quotes is matched by the second alternative only. -/
theorem inside_pair (cs : List Char) : inside ('\'' :: '\'' :: cs) = [cs] := by
  have hpair : exactly ['\'', '\''] ('\'' :: '\'' :: cs) = [cs] := exactly_append _ cs
  rw [inside, orElse, hpair, one_of_neg rfl]
  rfl

theorem inside_single (h : Stops (· == '\'') rest) : inside ('\'' :: rest) = [] := by
  have hpair : exactly ['\'', '\''] ('\'' :: rest) = [] := by
    apply exactly_eq_nil
    rintro ⟨more, hmore⟩
    cases hmore
    exact absurd (h '\'' rfl) (by decide)
  rw [inside, orElse, hpair, one_of_neg rfl]
  rfl

/-- Inside the literal, the pattern has no choice at a character that is no quote. -/
theorem closing_plain {c : Char} (hc : c ≠ '\'') (cs : List Char) :
    closing (c :: cs) = closing cs := by
  rw [closing, andThen, many_of_eq_singleton (inside_plain hc cs) (Nat.lt_succ_self _),
    List.flatMap_append, List.flatMap_singleton, one_of_neg (by simpa using hc), List.append_nil]
  rfl

/-- The literal has to end at a quote that no other follows. -/
theorem closing_single (h : Stops (· == '\'') rest) : closing ('\'' :: rest) = [rest] := by
  rw [closing, andThen, many_of_eq_nil (inside_single h), List.flatMap_singleton, one_of_pos rfl]

/-- At a pair, the matcher first takes both quotes into the literal, and only when that fails does
it come back to end the literal at the first one. -/
theorem closing_pair (cs : List Char) :
    closing ('\'' :: '\'' :: cs) = closing cs ++ ['\'' :: cs] := by
  have hlt : cs.length < ('\'' :: '\'' :: cs).length := Nat.lt_succ_of_lt (Nat.lt_succ_self _)
  rw [closing, andThen, many_of_eq_singleton (inside_pair cs) hlt, List.flatMap_append,
    List.flatMap_singleton, one_of_pos rfl]
  rfl

/-- Of all the quotes at which a literal could end, the matcher comes first to the one at which the
scan ends. Thus the backtracking of the matcher is the second chance that the scan gives to the last
pair. -/
theorem head?_closing (cs : List Char) : (closing cs).head? = afterLiteral cs := by
  -- The scan and the matcher take the literal apart in the same way, up to the choice at a pair.
  fun_induction afterLiteral cs with
  | case1 => rw [closing, andThen, many_of_eq_nil rfl]; rfl
  | case2 => rw [closing_single Text.stops_nil]; rfl
  | case3 c hc => rw [closing_plain hc, closing, andThen, many_of_eq_nil rfl]; rfl
  | case4 tail ih =>
    rw [closing_pair, List.head?_append, ih]
    cases afterLiteral tail <;> rfl
  | case5 d tail hd => rw [closing_single (stops_cons (by simpa using hd))]; rfl
  | case6 c d tail hc ih => rw [closing_plain hc, ih]

/-- A block comment ends here, or its next character is taken in. -/
theorem ending_cons (c : Char) (cs : List Char) :
    ending (c :: cs) = exactly ['*', '/'] (c :: cs) ++ ending cs := by
  rw [ending, andThen, few_of_eq_singleton (one_of_pos rfl cs) (Nat.lt_succ_self _),
    List.flatMap_cons]
  rfl

/-- The first mark that ends a block comment is the one that is found. -/
theorem head?_ending (cs : List Char) : (ending cs).head? = afterBlock cs := by
  induction cs with
  | nil => rw [ending, andThen, few_of_eq_nil rfl]; rfl
  | cons c cs ih =>
    rw [ending_cons, List.head?_append]
    by_cases hmark : ['*', '/'] <+: c :: cs
    · obtain ⟨rest, hrest⟩ := hmark
      rw [← hrest, exactly_append]
      exact (afterBlock_end rest).symm
    · rw [exactly_eq_nil hmark, ih, afterBlock_cons hmark]
      rfl

end Pattern

open Pattern

/-! ## The match at the front of a text -/

/-- Whether a piece is a single character, which no pattern matched. -/
def Piece.isPlain : Piece → Bool
  | .plain _ => true
  | _ => false

theorem literal_eq_nil {c : Char} (hc : c ≠ '\'') (cs : List Char) :
    andThen (one (· == '\'')) closing (c :: cs) = [] := by
  rw [andThen, one_of_neg (by simpa using hc)]
  rfl

theorem exactly_andThen (text rest : List Char) (p : Pattern) :
    andThen (exactly text) p (text ++ rest) = p rest := by
  rw [andThen, exactly_append, List.flatMap_singleton]

theorem andThen_eq_nil {p : Pattern} (h : p cs = []) (q : Pattern) : andThen p q cs = [] := by
  rw [andThen, h]
  rfl

/-- Two dashes begin a comment to the end of the line, without the line feed. -/
theorem commentOrLiteral_line (cs : List Char) :
    (commentOrLiteral ('-' :: '-' :: cs)).head? = some (afterLine cs) := by
  have hline := exactly_andThen ['-', '-'] cs (many (one (· ≠ '\n')))
  rw [commentOrLiteral, orElse, literal_eq_nil (by decide), List.nil_append, orElse,
    List.head?_append]
  exact (congrArg (fun found => (List.head? found).or _) hline).trans
    (by rw [head?_many_one, Option.some_or, afterLine])

/-- A slash and a star begin a comment, if it ends somewhere. -/
theorem commentOrLiteral_block (cs : List Char) :
    (commentOrLiteral ('/' :: '*' :: cs)).head? = afterBlock cs := by
  have hline : exactly ['-', '-'] ('/' :: '*' :: cs) = [] := by
    apply exactly_eq_nil
    rintro ⟨more, hmore⟩
    cases hmore
  have hblock := exactly_andThen ['/', '*'] cs ending
  rw [commentOrLiteral, orElse, literal_eq_nil (by decide), List.nil_append, orElse,
    andThen_eq_nil hline, List.nil_append]
  exact (congrArg List.head? hblock).trans (head?_ending cs)

/-- The pattern does not match where a single character stands for itself: none of its three
alternatives does. -/
theorem commentOrLiteral_single {c : Char} (h : Single c rest) : commentOrLiteral (c :: rest) = [] := by
  -- The alternatives fail one after another, each by its own condition on the character.
  have hliteral : andThen (one (· == '\'')) closing (c :: rest) = [] := by
    by_cases hc : c = '\''
    · rw [andThen, one_of_pos (by simpa using hc), List.flatMap_singleton,
        ← List.head?_eq_none_iff, head?_closing, afterLiteral_eq_none_iff]
      exact h.quote hc
    · exact literal_eq_nil hc rest
  have hline : exactly ['-', '-'] (c :: rest) = [] := by
    apply exactly_eq_nil
    rintro ⟨more, hmore⟩
    cases hmore
    exact absurd (h.dashes rfl '-' rfl) (by decide)
  have hblock : andThen (exactly ['/', '*']) ending (c :: rest) = [] := by
    by_cases hmark : ['/', '*'] <+: c :: rest
    · obtain ⟨text, htext⟩ := hmark
      cases htext
      have hending := exactly_andThen ['/', '*'] text ending
      refine hending.trans ?_
      rw [← List.head?_eq_none_iff, head?_ending, afterBlock_eq_none_iff]
      exact h.slash rfl text rfl
    · exact andThen_eq_nil (exactly_eq_nil hmark) ending
  rw [commentOrLiteral, orElse, hliteral, orElse, andThen_eq_nil hline, hblock]
  rfl

/-- The pattern matches where a literal or a comment begins, and takes it whole. One case for each
kind of piece. -/
theorem Begins.head?_commentOrLiteral (h : Begins cs piece rest) :
    (commentOrLiteral cs).head? = if piece.isPlain then none else some rest := by
  cases h with
  | literal hclose =>
    rw [commentOrLiteral, orElse, List.head?_append, andThen, one_of_pos rfl,
      List.flatMap_singleton, head?_closing, hclose.afterLiteral_eq]
    rfl
  | line hline hrest => rw [commentOrLiteral_line, afterLine_append hline hrest]; rfl
  | block hblock => rw [commentOrLiteral_block, afterBlock_append hblock]; rfl
  | plain hsingle => rw [commentOrLiteral_single hsingle]; rfl

/-! ## All matches -/

/-- A literal is put back as it is, and a comment is made a blank. -/
def blankForComment (found : List Char) : List Char :=
  if found.head? = some '\'' then found else [' ']

/-- What replaces a match is what the scan keeps of the piece. -/
theorem Begins.blankForComment_text (h : Begins cs piece rest) (hpiece : piece.isPlain = false) :
    blankForComment piece.text = piece.kept := by
  cases h with
  | literal _ => rfl
  | line _ _ => rfl
  | block _ => rfl
  | plain _ => cases hpiece

/-- The text of a piece stands where the piece begins. -/
theorem Begins.append_eq (h : Begins cs piece rest) : piece.text ++ rest = cs := by
  cases cs with
  | nil => cases h
  | cons c cs =>
    have happend := nextPiece_append c cs
    rwa [h.nextPiece_eq] at happend

/-- To replace the matches of the pattern is to strip the text. By induction on the pieces of the
text, the next of which is the next match or a character that is kept. -/
theorem replaceAll_eq_strip (cs : List Char) :
    replaceAll commentOrLiteral blankForComment cs = strip cs := by
  induction cs using pieces_induction with
  | nil => rw [replaceAll, strip_nil]
  | @piece cs piece rest hbegins ih =>
    have hmatch := hbegins.head?_commentOrLiteral
    rw [hbegins.strip_eq]
    -- A single character is passed over by both; any other piece is a match.
    cases hplain : piece.isPlain with
    | true =>
      rw [hplain, if_pos rfl] at hmatch
      cases hbegins with
      | plain _ => rw [replaceAll_of_none hmatch, ih]; rfl
      | literal _ => cases hplain
      | line _ _ => cases hplain
      | block _ => cases hplain
    | false =>
      rw [hplain, if_neg Bool.false_ne_true] at hmatch
      have htext : upTo cs rest = piece.text := by rw [← hbegins.append_eq, upTo_of_append]
      rw [replaceAll_of_some hmatch hbegins.length_lt, htext, hbegins.blankForComment_text hplain,
        ih]

/-- Stripping a script gives what the pass over it gives, and nothing else does; and this is
what it gives to replace each match of the pattern for comments and literals. -/
theorem stripComments_eq_iff_scans (script stripped : String) :
    (stripComments script = stripped ↔ Scans script.toList stripped.toList) ∧
      stripComments script =
        String.ofList (replaceAll commentOrLiteral blankForComment script.toList) := by
  refine ⟨?_, by rw [replaceAll_eq_strip, stripComments]⟩
  rw [← strip_eq_iff_scans, stripComments, ← String.toList_inj, String.toList_ofList]

/-- No quote follows the pair of quotes, so its first one closes the literal; the second one
opens nothing, and a comment may begin behind it. -/
example : stripComments "'a''b -- c" = "'a''b  " := by decide +kernel

end SchemaSeed.Script
