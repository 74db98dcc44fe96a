/-!
# Comments and literals of a script

A script is a row of pieces: string literals, comments, and all other characters one by
one. `pieces` finds them from left to right; at each place it prefers a literal, then a
line comment, then a block comment. `strip` writes the pieces again with a blank for each
comment, and `flatMap_text_pieces` says that the pieces lose nothing.
-/

namespace SchemaSeed.Script

inductive Piece where
  /-- A string literal with its quotes. -/
  | literal (text : List Char)
  /-- A line comment without its line break, or a block comment with its marks. -/
  | comment (text : List Char)
  | plain (char : Char)
  deriving DecidableEq, Repr

def Piece.text : Piece → List Char
  | .literal text => text
  | .comment text => text
  | .plain c => [c]

def Piece.kept : Piece → List Char
  | .literal text => text
  | .comment _ => [' ']
  | .plain c => [c]

/-- What follows a literal whose opening quote was read. Two quotes in a row stand for one
and do not close the literal, unless no other quote does; then the first of the last two
closes it. -/
def afterLiteral : List Char → Option (List Char)
  | [] => none
  | [c] => if c = '\'' then some [] else none
  | c :: d :: rest =>
    if c = '\'' then
      if d = '\'' then some ((afterLiteral rest).getD (d :: rest)) else some (d :: rest)
    else afterLiteral (d :: rest)

/-- What follows a block comment whose opening mark was read. -/
def afterBlock : List Char → Option (List Char)
  | c :: d :: rest => if c = '*' ∧ d = '/' then some rest else afterBlock (d :: rest)
  | _ => none

/-- What follows a line comment: the line feed, which is not part of it, and the next lines. -/
def afterLine (cs : List Char) : List Char := cs.dropWhile (· ≠ '\n')

def upTo (cs rest : List Char) : List Char := cs.take (cs.length - rest.length)

/-- The first piece of a text that begins with `c`, and what follows the piece. A mark that opens
what is never ended is a piece of its own. -/
def nextPiece (c : Char) (rest : List Char) : Piece × List Char :=
  if c = '\'' then
    match afterLiteral rest with
    | some after => (.literal (c :: upTo rest after), after)
    | none => (.plain c, rest)
  else
    match rest with
    | d :: rest' =>
      if c = '-' ∧ d = '-' then (.comment (c :: d :: upTo rest' (afterLine rest')), afterLine rest')
      else if c = '/' ∧ d = '*' then
        match afterBlock rest' with
        | some after => (.comment (c :: d :: upTo rest' after), after)
        | none => (.plain c, rest)
      else (.plain c, rest)
    | [] => (.plain c, [])

/-! ### A piece and its rest make up the text -/

/-- What follows a literal is the end of the text. By induction along the scan, which can come back
to the second quote of a pair. -/
theorem afterLiteral_suffix {cs rest : List Char} (h : afterLiteral cs = some rest) :
    rest <:+ cs := by
  fun_induction afterLiteral cs generalizing rest with
  | case1 => cases h
  | case2 => cases h; exact List.nil_suffix
  | case3 => cases h
  | case4 tail ih =>
    cases ha : afterLiteral tail with
    | none => rw [ha] at h; cases h; exact List.suffix_cons _ _
    | some after =>
      rw [ha] at h; cases h
      exact ((ih ha).trans (List.suffix_cons _ _)).trans (List.suffix_cons _ _)
  | case5 => cases h; exact List.suffix_cons _ _
  | case6 _ _ _ _ ih => exact (ih h).trans (List.suffix_cons _ _)

theorem afterBlock_suffix {cs rest : List Char} (h : afterBlock cs = some rest) :
    rest <:+ cs := by
  fun_induction afterBlock cs generalizing rest with
  | case1 => cases h; exact (List.suffix_cons _ _).trans (List.suffix_cons _ _)
  | case2 _ _ _ _ ih => exact (ih h).trans (List.suffix_cons _ _)
  | case3 => cases h

theorem afterLine_suffix (cs : List Char) : afterLine cs <:+ cs := List.dropWhile_suffix _

theorem upTo_append {cs rest : List Char} (h : rest <:+ cs) : upTo cs rest ++ rest = cs := by
  obtain ⟨front, rfl⟩ := h
  simp [upTo]

/-- A piece and what follows it make up the text, whichever piece it is. -/
theorem nextPiece_append (c : Char) (rest : List Char) :
    (nextPiece c rest).1.text ++ (nextPiece c rest).2 = c :: rest := by
  unfold nextPiece
  split
  · split
    · next after h => simp [Piece.text, upTo_append (afterLiteral_suffix h)]
    · simp [Piece.text]
  · split
    · split
      · next rest' _ =>
        simp [Piece.text, upTo_append (afterLine_suffix rest')]
      · split
        · split
          · next after h => simp [Piece.text, upTo_append (afterBlock_suffix h)]
          · simp [Piece.text]
        · simp [Piece.text]
    · simp [Piece.text]

/-- No piece is empty, so that the scan comes to the end of the text. -/
theorem length_nextPiece_le (c : Char) (rest : List Char) :
    (nextPiece c rest).2.length ≤ rest.length := by
  have h := congrArg List.length (nextPiece_append c rest)
  have hpos : 0 < (nextPiece c rest).1.text.length := by
    unfold nextPiece
    split
    · split <;> simp [Piece.text]
    · split
      · split
        · simp [Piece.text]
        · split
          · split <;> simp [Piece.text]
          · simp [Piece.text]
      · simp [Piece.text]
  simp only [List.length_append, List.length_cons] at h
  omega

/-! ### All pieces -/

/-- The pieces of a text, after those in `done`, the last one first. -/
def piecesFrom (done : List Piece) : List Char → List Piece
  | [] => done.reverse
  | c :: rest => piecesFrom ((nextPiece c rest).1 :: done) (nextPiece c rest).2
termination_by cs => cs.length
decreasing_by exact Nat.lt_succ_of_le (length_nextPiece_le c rest)

def pieces (cs : List Char) : List Piece := piecesFrom [] cs

/-- A text with a blank in place of each comment, so that the words on its two sides stay apart. -/
def strip (cs : List Char) : List Char := (pieces cs).flatMap Piece.kept

def stripComments (script : String) : String := String.ofList (strip script.toList)

/-- The pieces that were found before are only carried along. -/
theorem piecesFrom_eq (done : List Piece) (cs : List Char) :
    piecesFrom done cs = done.reverse ++ pieces cs := by
  -- The search goes on behind a piece, so that the induction is on a bound for the length.
  suffices h : ∀ n (cs : List Char), cs.length ≤ n → ∀ done, piecesFrom done cs =
      done.reverse ++ piecesFrom [] cs from h cs.length cs (Nat.le_refl _) done
  intro n
  induction n with
  | zero =>
    intro cs h done
    cases List.length_eq_zero_iff.1 (Nat.le_zero.1 h)
    simp [piecesFrom]
  | succ n ih =>
    intro cs h done
    cases cs with
    | nil => simp [piecesFrom]
    | cons c rest =>
      have hle := length_nextPiece_le c rest
      simp only [List.length_cons] at h
      rw [piecesFrom, piecesFrom, ih _ (by omega) (_ :: done), ih _ (by omega) [_]]
      simp

@[simp] theorem pieces_nil : pieces [] = [] := by simp [pieces, piecesFrom]

theorem pieces_cons (c : Char) (rest : List Char) :
    pieces (c :: rest) = (nextPiece c rest).1 :: pieces (nextPiece c rest).2 := by
  rw [pieces, piecesFrom, piecesFrom_eq]; rfl

/-- The pieces lose nothing: written one after another, they are the text. -/
theorem flatMap_text_pieces (cs : List Char) : (pieces cs).flatMap Piece.text = cs := by
  induction h : cs.length using Nat.strongRecOn generalizing cs with
  | ind n ih =>
    cases cs with
    | nil => simp
    | cons c rest =>
      have hle := length_nextPiece_le c rest
      subst h
      rw [pieces_cons, List.flatMap_cons, ih _ (Nat.lt_succ_of_le hle) _ rfl,
        nextPiece_append]

end SchemaSeed.Script
