import SchemaSeed.Json.Reader

/-!
# Passing over a value

`skim` finds the end of a value without building it. Only the grammar is checked: numbers
may be too large, halves of surrogate pairs may stand alone, and containers may be nested
to any depth, since the brackets that are open are kept in a list.
-/

namespace SchemaSeed.Json

/-! ### Scalars -/

def skimEscape : List Char → Except Fault (List Char)
  | [] => .error (.before .endInString [])
  | c :: rest =>
    if (shortEscape? c).isSome then .ok rest
    else if c = 'u' then (hexQuad rest).map (·.2)
    else .error (.ahead .invalidEscape (c :: rest))

theorem shorter_of_skimEscape {cs rest : List Char} (h : skimEscape cs = .ok rest) :
    rest.length < cs.length := by
  unfold skimEscape at h
  split at h
  · cases h
  · split at h
    · cases h; simp
    · split at h
      · next tail _ _ =>
        cases hq : hexQuad tail with
        | error => rw [hq] at h; cases h
        | ok p =>
          rw [hq] at h
          cases h
          have : p.2.length < tail.length := shorter_of_hexQuad hq
          simp only [List.length_cons]; omega
      · cases h

/-- The rest of a string literal, up to its closing quote. -/
def skimText : List Char → Except Fault (List Char)
  | [] => .error (.before .endInString [])
  | c :: rest =>
    if c = '"' then .ok rest
    else if c = '\\' then
      match h : skimEscape rest with
      | .error fault => .error fault
      | .ok rest' =>
        have : rest'.length < rest.length := shorter_of_skimEscape h
        skimText rest'
    else if c.toNat < 0x20 then .error (.before .controlCharacter (c :: rest))
    else skimText rest
termination_by cs => cs.length
decreasing_by all_goals simp only [List.length_cons]; omega

theorem shorter_of_skimText {cs rest : List Char} (h : skimText cs = .ok rest) :
    rest.length < cs.length := by
  fun_induction skimText cs with
  | case1 => cases h
  | case2 => cases h; simp
  | case3 => cases h
  | case4 _ _ _ _ _ ih => have := ih h; simp only [List.length_cons]; omega
  | case5 => cases h
  | case6 _ _ _ _ _ ih => have := ih h; simp only [List.length_cons]; omega

def skimExponent (cs : List Char) : Except Fault (List Char) :=
  let digits :=
    match cs with
    | c :: rest => if c = '+' ∨ c = '-' then rest else cs
    | [] => cs
  match digits with
  | [] => .error (.before .invalidNumber [])
  | c :: rest =>
    if c.isDigit then .ok (skipDigits rest) else .error (.ahead .invalidNumber (c :: rest))

def skimFraction (cs : List Char) : Except Fault (List Char) :=
  match cs with
  | [] => .ok []
  | c :: rest =>
    if c = '.' then
      if startsWithDigit rest then
        match skipDigits rest with
        | d :: rest' => if d = 'e' ∨ d = 'E' then skimExponent rest' else .ok (d :: rest')
        | [] => .ok []
      else .error (.ahead .invalidNumber rest)
    else if c = 'e' ∨ c = 'E' then skimExponent rest
    else .ok (c :: rest)

def skimNumeral : List Char → Except Fault (List Char)
  | [] => .error (.before .invalidNumber [])
  | c :: rest =>
    if c = '0' then
      if startsWithDigit rest then .error (.ahead .invalidNumber rest) else skimFraction rest
    else if c.isDigit then skimFraction (skipDigits rest)
    else .error (.ahead .invalidNumber (c :: rest))

theorem length_le_of_skimExponent {cs rest : List Char} (h : skimExponent cs = .ok rest) :
    rest.length ≤ cs.length := by
  unfold skimExponent at h
  simp only at h
  split at h
  · cases h
  · next c tail heq =>
    have hle : (c :: tail).length ≤ cs.length := by
      rw [← heq]
      split
      · split
        · simp
        · exact Nat.le_refl _
      · exact Nat.le_refl _
    split at h
    · cases h
      have := length_skipDigits_le tail
      simp only [List.length_cons] at hle; omega
    · cases h

theorem length_le_of_skimFraction {cs rest : List Char} (h : skimFraction cs = .ok rest) :
    rest.length ≤ cs.length := by
  unfold skimFraction at h
  split at h
  · cases h; exact Nat.le_refl _
  · split at h
    · split at h
      · next c tail _ _ =>
        have hd := length_skipDigits_le tail
        split at h
        · next heq =>
          rw [heq] at hd
          simp only [List.length_cons] at hd
          split at h
          · have := length_le_of_skimExponent h
            simp only [List.length_cons]; omega
          · cases h; simp only [List.length_cons]; omega
        · cases h; simp
      · cases h
    · split at h
      · have := length_le_of_skimExponent h
        simp only [List.length_cons]; omega
      · cases h; exact Nat.le_refl _

theorem shorter_of_skimNumeral {cs rest : List Char} (h : skimNumeral cs = .ok rest) :
    rest.length < cs.length := by
  unfold skimNumeral at h
  split at h
  · cases h
  · split at h
    · split at h
      · cases h
      · have := length_le_of_skimFraction h
        simp only [List.length_cons]; omega
    · split at h
      · next tail _ _ =>
        have := length_le_of_skimFraction h
        have := length_skipDigits_le tail
        simp only [List.length_cons]; omega
      · cases h

/-! ### Containers -/

inductive Bracket where
  | list
  | object

def Bracket.closing : Bracket → Char
  | .list => ']'
  | .object => '\x7d'

def Bracket.unclosed : Bracket → Cause
  | .list => .endInList
  | .object => .endInObject

/-- Neither a comma nor the closing bracket follows an entry. -/
def Bracket.unseparated : Bracket → Cause
  | .list => .expectedListEnd
  | .object => .expectedObjectEnd

/-- The first token of a value: a scalar was passed over, or a bracket was opened. -/
inductive SkimStep (bound : Nat) where
  | past (rest : List Char) (shorter : rest.length < bound)
  | enter (bracket : Bracket) (rest : List Char) (shorter : rest.length < bound)

def SkimStep.ofScalar (r : Except Fault (List Char)) (n : Nat)
    (h : ∀ rest, r = .ok rest → rest.length < n) : Except Fault (SkimStep n) :=
  match r, h with
  | .error fault, _ => .error fault
  | .ok rest, h => .ok (.past rest (h rest rfl))

/-- The first token of a value, with no blank before it. -/
def skimToken : (cs : List Char) → Except Fault (SkimStep cs.length)
  | [] => .error (.ahead .endInValue [])
  | c :: rest =>
    if c = 'n' then SkimStep.ofScalar (letters ['u', 'l', 'l'] rest) _
      fun _ h => Nat.lt_succ_of_le (length_le_of_letters h)
    else if c = 't' then SkimStep.ofScalar (letters ['r', 'u', 'e'] rest) _
      fun _ h => Nat.lt_succ_of_le (length_le_of_letters h)
    else if c = 'f' then SkimStep.ofScalar (letters ['a', 'l', 's', 'e'] rest) _
      fun _ h => Nat.lt_succ_of_le (length_le_of_letters h)
    else if c = '-' then SkimStep.ofScalar (skimNumeral rest) _
      fun _ h => Nat.lt_succ_of_lt (shorter_of_skimNumeral h)
    else if c.isDigit then SkimStep.ofScalar (skimNumeral (c :: rest)) _
      fun _ h => shorter_of_skimNumeral h
    else if c = '"' then SkimStep.ofScalar (skimText rest) _
      fun _ h => Nat.lt_succ_of_lt (shorter_of_skimText h)
    else if c = '[' then .ok (.enter .list rest (length_lt_cons c rest))
    else if c = '\x7b' then .ok (.enter .object rest (length_lt_cons c rest))
    else .error (.ahead .expectedValue (c :: rest))

/-- The key of a member and its colon, with no blank before it. -/
def skimKey : (cs : List Char) → Reading Unit cs
  | [] => .error (.ahead .endInObject [])
  | c :: rest =>
    if c = '"' then
      match h : skimText rest with
      | .error fault => .error fault
      | .ok rest' =>
        have := shorter_of_skimText h
        (colon rest').map (·.widen (by simp only [List.length_cons]; omega))
    else .error (.ahead .keyNotString (c :: rest))

theorem length_le_of_lt {bound : Nat} {cs : List Char} (h : cs.length < bound) :
    cs.length ≤ bound := Nat.le_of_lt h

theorem length_rest_le {bound : Nat} {cs : List Char} (t : Taken Unit cs.length)
    (h : cs.length < bound) : t.rest.length ≤ bound :=
  Nat.le_of_lt (Nat.lt_trans t.shorter h)

mutual

/-- A value inside the brackets `opened`, the innermost first, and all that follows it up
to the last closing bracket. -/
def skimValue {bound : Nat} (opened : List Bracket) (cs : List Char) (h : cs.length ≤ bound) :
    Except Fault (Taken Unit bound) :=
  have hs := length_skipSpace_le cs
  match skimToken (skipSpace cs) with
  | .error fault => .error fault
  | .ok (.past rest hr) => skimRest true opened rest (by omega)
  | .ok (.enter bracket rest hr) => skimRest false (bracket :: opened) rest (by omega)
termination_by (cs.length, 0)

/-- What follows an entry of the innermost bracket, or its opening when `separated` does
not hold. -/
def skimRest {bound : Nat} (separated : Bool) (opened : List Bracket) (cs : List Char)
    (h : cs.length < bound) : Except Fault (Taken Unit bound) :=
  match opened with
  | [] => .ok ⟨(), cs, h⟩
  | bracket :: outer =>
    match hs : skipSpace cs with
    | [] => .error (.ahead bracket.unclosed [])
    | c :: rest =>
      have hle := length_le_of_skipSpace hs
      have hlt := length_lt_of_skipSpace hs
      if c = ',' ∧ separated then
        skimEntry bracket outer (skipSpace rest)
          (by have := length_skipSpace_le rest; omega)
      else if c = bracket.closing then skimRest true outer rest (by omega)
      else if separated then .error (.ahead bracket.unseparated (c :: rest))
      else skimEntry bracket outer (c :: rest) (lt_of_skipSpace hs h)
termination_by (cs.length, 2)
decreasing_by
  · have := length_skipSpace_le rest
    exact Prod.Lex.left _ _ (by omega)
  · exact Prod.Lex.left _ _ hlt
  · rcases Nat.lt_or_eq_of_le hle with h | h
    · exact Prod.Lex.left _ _ h
    · rw [h]; exact Prod.Lex.right _ (by omega)

def skimEntry {bound : Nat} (bracket : Bracket) (outer : List Bracket) (cs : List Char)
    (h : cs.length < bound) : Except Fault (Taken Unit bound) :=
  match bracket with
  | .list => skimValue (bracket :: outer) cs (length_le_of_lt h)
  | .object =>
    match skimKey cs with
    | .error fault => .error fault
    | .ok t => skimValue (bracket :: outer) t.rest (length_rest_le t h)
termination_by (cs.length, 1)
decreasing_by
  · exact Prod.Lex.right _ Nat.zero_lt_one
  · exact Prod.Lex.left _ _ t.shorter

end

def skim (cs : List Char) : Reading Unit cs := skimValue [] cs (length_le_self cs)

end SchemaSeed.Json
