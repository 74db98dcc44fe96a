import SchemaSeed.Dependency.Basic
import SchemaSeed.Script.Statement
import SchemaSeed.Text.Lowercase
import SchemaSeed.Text.Word

/-!
# Tables that a script declares

This is no SQL grammar. A statement that begins with `CREATE TABLE` declares a table, and
each `FOREIGN KEY (...) REFERENCES` in it names a table that it depends on. Every
recogniser here looks at the front of a text and gives what follows; where a clause is
optional, it is tried first, and the reading without it only when the rest then fails.
Keywords are taken in any letter case, and names may stand in double quotes and after the
name of a schema.
-/

namespace SchemaSeed.Script

open Text (isBlank isWord)

/-! ### Words -/

/-- The letter `k` in any case. Two characters outside ASCII fold to letters of ASCII: the
long s, and the sign for kelvins. -/
def isCaseOf (k c : Char) : Bool :=
  c.toLower == k || (k == 's' && c == 'ſ') || (k == 'k' && c == '\u212a')

/-- A keyword, which is given in small letters. It is left to the next recogniser whether the word
ends there. -/
def keyword : List Char → List Char → Option (List Char)
  | [], cs => some cs
  | _ :: _, [] => none
  | k :: word, c :: rest => if isCaseOf k c then keyword word rest else none

def skipBlanks (cs : List Char) : List Char := cs.dropWhile isBlank

def blanks : List Char → Option (List Char)
  | [] => none
  | c :: rest => if isBlank c then some (skipBlanks rest) else none

def spacedKeyword (word : String) (cs : List Char) : Option (List Char) :=
  (keyword word.toList cs).bind blanks

def character (c : Char) : List Char → Option (List Char)
  | [] => none
  | d :: rest => if d = c then some rest else none

def skipQuote : List Char → List Char
  | [] => []
  | c :: rest => if c = '"' then rest else c :: rest

/-- A word, in quotes or not. The two quotes need not come together, so that one of them is enough.
-/
def simpleName (cs : List Char) : Option (List Char × List Char) :=
  let word := (skipQuote cs).takeWhile isWord
  if word.isEmpty then none else some (word, skipQuote ((skipQuote cs).dropWhile isWord))

/-- The name of a schema and the point after it. There may be blanks around the point. -/
def qualifier (cs : List Char) : Option (List Char) :=
  (simpleName cs).bind fun (_, rest) => (character '.' (skipBlanks rest)).map skipBlanks

/-- The name of a table, without the name of its schema. -/
def tableName (cs : List Char) : Option (List Char × List Char) :=
  ((qualifier cs).bind simpleName).or (simpleName cs)

/-! ### Declarations -/

/-- `TEMPORARY`, `TEMP` or `UNLOGGED`; the first two after `GLOBAL` or `LOCAL`, perhaps. -/
def modifier (cs : List Char) : Option (List Char) :=
  (((spacedKeyword "global" cs).or (spacedKeyword "local" cs)).bind temporary).or <|
    (temporary cs).or (spacedKeyword "unlogged" cs)
where
  temporary (cs : List Char) : Option (List Char) :=
    (spacedKeyword "temporary" cs).or (spacedKeyword "temp" cs)

def ifNotExists (cs : List Char) : Option (List Char) :=
  ((spacedKeyword "if" cs).bind (spacedKeyword "not")).bind (spacedKeyword "exists")

/-- `TABLE`, perhaps `IF NOT EXISTS`, and the name that is declared. -/
def tableClause (cs : List Char) : Option (List Char) :=
  (spacedKeyword "table" cs).bind fun rest =>
    (((ifNotExists rest).bind tableName).or (tableName rest)).map (·.1)

def declaredName (statement : List Char) : Option (List Char) :=
  (spacedKeyword "create" statement).bind fun rest =>
    ((modifier rest).bind tableClause).or (tableClause rest)

/-! ### References -/

def parenthesised (cs : List Char) : Option (List Char) :=
  (character '(' cs).bind fun rest => character ')' (rest.dropWhile (· != ')'))

/-- `FOREIGN KEY (...) REFERENCES`, the name of the table after it, and what follows. -/
def foreignKey (cs : List Char) : Option (List Char × List Char) :=
  ((((spacedKeyword "foreign" cs).bind (keyword "key".toList)).bind
    (parenthesised <| skipBlanks ·)).bind (spacedKeyword "references" <| skipBlanks ·)).bind
      tableName

/-! ### What is left is shorter -/

theorem length_keyword {word cs rest : List Char} (h : keyword word cs = some rest) :
    rest.length + word.length = cs.length := by
  fun_induction keyword word cs with
  | case1 => cases h; rfl
  | case2 => cases h
  | case3 _ _ _ _ _ ih => have := ih h; simp only [List.length_cons]; omega
  | case4 => cases h

theorem length_skipBlanks_le (cs : List Char) : (skipBlanks cs).length ≤ cs.length :=
  (List.dropWhile_sublist _).length_le

theorem length_blanks_le {cs rest : List Char} (h : blanks cs = some rest) :
    rest.length ≤ cs.length := by
  unfold blanks at h
  split at h
  · cases h
  · next tail =>
    split at h
    · cases h
      have := length_skipBlanks_le tail
      simp only [List.length_cons]; omega
    · cases h

theorem length_spacedKeyword {word : String} {cs rest : List Char}
    (h : spacedKeyword word cs = some rest) : rest.length + word.toList.length ≤ cs.length := by
  obtain ⟨mid, hk, hb⟩ := Option.bind_eq_some_iff.1 h
  have := length_keyword hk
  have := length_blanks_le hb
  omega

theorem length_character_le {c : Char} {cs rest : List Char} (h : character c cs = some rest) :
    rest.length ≤ cs.length := by
  unfold character at h
  split at h
  · cases h
  · split at h
    · cases h; simp
    · cases h

theorem length_skipQuote_le (cs : List Char) : (skipQuote cs).length ≤ cs.length := by
  unfold skipQuote
  split
  · exact Nat.le_refl _
  · split
    · simp
    · exact Nat.le_refl _

theorem length_simpleName_le {cs name rest : List Char}
    (h : simpleName cs = some (name, rest)) : rest.length ≤ cs.length := by
  unfold simpleName at h
  simp only at h
  split at h
  · cases h
  · cases h
    have h1 := length_skipQuote_le ((skipQuote cs).dropWhile isWord)
    have h2 : ((skipQuote cs).dropWhile isWord).length ≤ (skipQuote cs).length :=
      (List.dropWhile_sublist _).length_le
    have h3 := length_skipQuote_le cs
    omega

theorem length_qualifier_le {cs rest : List Char} (h : qualifier cs = some rest) :
    rest.length ≤ cs.length := by
  obtain ⟨⟨name, mid⟩, hn, hc⟩ := Option.bind_eq_some_iff.1 h
  obtain ⟨tail, hp, rfl⟩ := Option.map_eq_some_iff.1 hc
  have := length_simpleName_le hn
  have := length_character_le hp
  have := length_skipBlanks_le mid
  have := length_skipBlanks_le tail
  omega

theorem length_tableName_le {cs name rest : List Char} (h : tableName cs = some (name, rest)) :
    rest.length ≤ cs.length := by
  rcases Option.or_eq_some_iff.1 h with h | ⟨-, h⟩
  · obtain ⟨mid, hq, hn⟩ := Option.bind_eq_some_iff.1 h
    have := length_qualifier_le hq
    have := length_simpleName_le hn
    omega
  · exact length_simpleName_le h

theorem length_parenthesised_le {cs rest : List Char} (h : parenthesised cs = some rest) :
    rest.length ≤ cs.length := by
  obtain ⟨mid, ho, hc⟩ := Option.bind_eq_some_iff.1 h
  have := length_character_le ho
  have := length_character_le hc
  have : (mid.dropWhile (· != ')')).length ≤ mid.length := (List.dropWhile_sublist _).length_le
  omega

theorem length_foreignKey_lt {cs name rest : List Char}
    (h : foreignKey cs = some (name, rest)) : rest.length < cs.length := by
  obtain ⟨r₄, h, hn⟩ := Option.bind_eq_some_iff.1 h
  obtain ⟨r₃, h, hr⟩ := Option.bind_eq_some_iff.1 h
  obtain ⟨r₂, h, hp⟩ := Option.bind_eq_some_iff.1 h
  obtain ⟨r₁, hf, hk⟩ := Option.bind_eq_some_iff.1 h
  have hpos : "foreign".toList.length = 7 := by decide
  have := length_spacedKeyword hf
  have := length_keyword hk
  have := length_parenthesised_le hp
  have := length_skipBlanks_le r₂
  have := length_spacedKeyword hr
  have := length_skipBlanks_le r₃
  have := length_tableName_le hn
  omega

/-! ### Facts of a script -/

/-- The names after each `FOREIGN KEY (...) REFERENCES` from left to right. The keyword
must begin a word: `inWord` tells whether the character before `cs` belongs to one. -/
def references (inWord : Bool) (cs : List Char) : List (List Char) :=
  match cs with
  | [] => []
  | c :: rest =>
    match _h : if inWord then none else foreignKey (c :: rest) with
    | some (name, after) => name :: references false after
    | none => references (isWord c) rest
termination_by cs.length
decreasing_by
  · split at _h
    · cases _h
    · exact length_foreignKey_lt _h
  · simp

/-- What a statement says about the table that it declares, if it declares one. -/
def statementFact (statement : List Char) : Option TableDependency :=
  (declaredName statement).map fun name =>
    ⟨lowered name, (references false statement).map lowered⟩
where
  lowered (name : List Char) : String := String.ofList (Text.lowercase name)

/-- One fact for each statement of a script that declares a table. Comments count as
blanks. -/
def extractDependencies (script : String) : List TableDependency :=
  (statements (strip script.toList)).filterMap statementFact

end SchemaSeed.Script
