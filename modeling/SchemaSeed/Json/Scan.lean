import SchemaSeed.Json.Fault
import SchemaSeed.Text.Hex

/-!
# The lexical parts of JSON

Blanks, string literals and the three words, each read from the front of a list
of characters. What is left is always shorter than what was given
(`shorter_of_escape`, `shorter_of_textFrom`,
`length_le_of_letters`).
-/

namespace SchemaSeed.Json

/-- The four characters that may stand between tokens. -/
def isSpace (c : Char) : Bool := c = ' ' || c = '\n' || c = '\t' || c = '\r'

def skipSpace (cs : List Char) : List Char := cs.dropWhile isSpace

theorem length_skipSpace_le (cs : List Char) : (skipSpace cs).length ≤ cs.length :=
  (List.dropWhile_sublist _).length_le

theorem length_le_of_skipSpace {cs rest : List Char} {c : Char} (h : skipSpace cs = c :: rest) :
    (c :: rest).length ≤ cs.length :=
  h ▸ length_skipSpace_le cs

theorem length_lt_of_skipSpace {cs rest : List Char} {c : Char} (h : skipSpace cs = c :: rest) :
    rest.length < cs.length :=
  length_le_of_skipSpace h

theorem lt_of_skipSpace {cs rest : List Char} {c : Char} {bound : Nat}
    (h : skipSpace cs = c :: rest) (hcs : cs.length < bound) : (c :: rest).length < bound :=
  Nat.lt_of_le_of_lt (length_le_of_skipSpace h) hcs

theorem length_le_of_lt_skipSpace {cs rest : List Char}
    (h : rest.length < (skipSpace cs).length) : rest.length ≤ cs.length :=
  Nat.le_trans (Nat.le_of_lt h) (length_skipSpace_le cs)

theorem length_le_self (cs : List Char) : cs.length ≤ cs.length := Nat.le_refl _

theorem length_lt_cons (c : Char) (rest : List Char) : rest.length < (c :: rest).length :=
  Nat.lt_succ_self _

/-! ### String literals -/

/-- Four hexadecimal digits. When they fail, four bytes count as read, or all when there
are fewer. -/
def hexQuad : List Char → Except Fault (Nat × List Char)
  | cs@(a :: b :: c :: d :: rest) =>
    match Text.hexDigit? a, Text.hexDigit? b, Text.hexDigit? c, Text.hexDigit? d with
    | some a, some b, some c, some d => .ok (((a * 16 + b) * 16 + c) * 16 + d, rest)
    | _, _, _, _ => .error (failed cs)
  | cs => .error (failed cs)
where
  failed (cs : List Char) : Fault :=
    if Text.byteCount cs < 4 then ⟨.endInString, 0⟩
    else ⟨.invalidEscape, Text.byteCount cs - 4⟩

def joinSurrogates (high low : Nat) : Char :=
  Char.ofNat (0x10000 + (high - 0xD800) * 0x400 + (low - 0xDC00))

/-- The second half of a surrogate pair, with its own escape, after a first half `high`. -/
def lowSurrogate (high : Nat) : List Char → Except Fault (Char × List Char)
  | [] => .error (.before .endInString [])
  | [c] => .error (if c = '\\' then .before .endInString [] else .ahead .endOfEscape [c])
  | c :: d :: rest =>
    if c ≠ '\\' then .error (.ahead .endOfEscape (c :: d :: rest))
    else if d ≠ 'u' then .error (.ahead .endOfEscape (d :: rest))
    else
      match hexQuad rest with
      | .error fault => .error fault
      | .ok (low, rest) =>
        if 0xDC00 ≤ low ∧ low ≤ 0xDFFF then .ok (joinSurrogates high low, rest)
        else .error (.before .loneSurrogate rest)

/-- The characters that an escape of one letter stands for. -/
def shortEscape? (c : Char) : Option Char :=
  if c = '"' ∨ c = '\\' ∨ c = '/' then some c
  else if c = 'b' then some '\x08'
  else if c = 'f' then some '\x0c'
  else if c = 'n' then some '\n'
  else if c = 'r' then some '\r'
  else if c = 't' then some '\t'
  else none

def escape : List Char → Except Fault (Char × List Char)
  | [] => .error (.before .endInString [])
  | c :: rest =>
    match shortEscape? c with
    | some e => .ok (e, rest)
    | none =>
      if c ≠ 'u' then .error (.ahead .invalidEscape (c :: rest))
      else
        match hexQuad rest with
        | .error fault => .error fault
        | .ok (n, rest) =>
          if 0xD800 ≤ n ∧ n ≤ 0xDBFF then lowSurrogate n rest
          else if 0xDC00 ≤ n ∧ n ≤ 0xDFFF then .error (.before .loneSurrogate rest)
          else .ok (Char.ofNat n, rest)

theorem shorter_of_hexQuad {cs rest : List Char} {n : Nat} (h : hexQuad cs = .ok (n, rest)) :
    rest.length < cs.length := by
  unfold hexQuad at h
  split at h
  · split at h
    · cases h; simp only [List.length_cons]; omega
    · cases h
  · cases h

theorem shorter_of_lowSurrogate {cs rest : List Char} {high : Nat} {c : Char}
    (h : lowSurrogate high cs = .ok (c, rest)) : rest.length < cs.length := by
  unfold lowSurrogate at h
  split at h
  · cases h
  · cases h
  · split at h
    · cases h
    · split at h
      · cases h
      · split at h
        · cases h
        · next hq =>
          have := shorter_of_hexQuad hq
          split at h
          · simp only [Except.ok.injEq, Prod.mk.injEq] at h
            simp only [List.length_cons, ← h.2]; omega
          · exact absurd h (by simp)

theorem shorter_of_escape {cs rest : List Char} {c : Char}
    (h : escape cs = .ok (c, rest)) : rest.length < cs.length := by
  unfold escape at h
  split at h
  · cases h
  · split at h
    · cases h; simp
    · split at h
      · cases h
      · split at h
        · cases h
        · next hq =>
          have hq := shorter_of_hexQuad hq
          split at h
          · have := shorter_of_lowSurrogate h
            simp only [List.length_cons]; omega
          · split at h
            · cases h
            · cases h; simp only [List.length_cons]; omega

/-- The rest of a string literal up to its closing quote; `done` holds the characters read
so far, the last one first. -/
def textFrom (done : List Char) : List Char → Except Fault (List Char × List Char)
  | [] => .error (.before .endInString [])
  | c :: rest =>
    if c = '"' then .ok (done.reverse, rest)
    else if c = '\\' then
      match h : escape rest with
      | .error fault => .error fault
      | .ok (e, rest') =>
        have : rest'.length < rest.length := shorter_of_escape h
        textFrom (e :: done) rest'
    else if c.toNat < 0x20 then .error (.before .controlCharacter rest)
    else textFrom (c :: done) rest
termination_by cs => cs.length
decreasing_by all_goals simp only [List.length_cons]; omega

theorem shorter_of_textFrom {done cs text rest : List Char}
    (h : textFrom done cs = .ok (text, rest)) : rest.length < cs.length := by
  fun_induction textFrom done cs with
  | case1 => cases h
  | case2 => cases h; simp
  | case3 => cases h
  | case4 _ _ _ _ _ _ _ ih => have := ih h; simp only [List.length_cons]; omega
  | case5 => cases h
  | case6 _ _ _ _ _ _ ih => have := ih h; simp only [List.length_cons]; omega

/-! ### The words `null`, `true` and `false` -/

def letters : List Char → List Char → Except Fault (List Char)
  | [], cs => .ok cs
  | _ :: _, [] => .error (.before .endInValue [])
  | w :: word, c :: rest =>
    if c = w then letters word rest else .error (.ahead .expectedIdent (c :: rest))

theorem length_le_of_letters {word cs rest : List Char} (h : letters word cs = .ok rest) :
    rest.length ≤ cs.length := by
  fun_induction letters word cs with
  | case1 => cases h; exact Nat.le_refl _
  | case2 => cases h
  | case3 _ _ _ ih => have := ih h; simp only [List.length_cons]; omega
  | case4 => cases h

end SchemaSeed.Json
