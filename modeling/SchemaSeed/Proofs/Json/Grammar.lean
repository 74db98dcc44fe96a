import SchemaSeed.Json.Scan

/-!
# The grammar of JSON

The texts of JSON values, production by production. Numbers may have any size, escapes may
stand for halves of surrogate pairs, and containers may be nested to any depth.
-/

namespace SchemaSeed.Json

def IsSpaces (cs : List Char) : Prop := ∀ c ∈ cs, isSpace c = true

theorem isSpaces_nil : IsSpaces [] := fun _ h => nomatch h

/-! ## Numbers -/

def IsDigits (cs : List Char) : Prop := ∀ c ∈ cs, c.isDigit = true

inductive IsInteger : List Char → Prop
  | zero : IsInteger ['0']
  | positive {d : Char} {ds : List Char} (hd : d.isDigit = true) (hne : d ≠ '0')
      (hds : IsDigits ds) : IsInteger (d :: ds)

inductive IsFraction : List Char → Prop
  | absent : IsFraction []
  | present {d : Char} {ds : List Char} (hd : d.isDigit = true) (hds : IsDigits ds) :
      IsFraction ('.' :: d :: ds)

inductive IsExponent : List Char → Prop
  | absent : IsExponent []
  | present {letter : Char} {sign : List Char} {d : Char} {ds : List Char}
      (hletter : letter = 'e' ∨ letter = 'E') (hsign : sign ∈ [[], ['+'], ['-']])
      (hd : d.isDigit = true) (hds : IsDigits ds) : IsExponent (letter :: (sign ++ d :: ds))

/-- A number without its sign, in three parts, of which only the first must be there. -/
inductive IsNumeral : List Char → Prop
  | parts {i f e : List Char} (hi : IsInteger i) (hf : IsFraction f) (he : IsExponent e) :
      IsNumeral (i ++ (f ++ e))

/-! ## Strings -/

/-- Four hexadecimal digits, and the number that they spell. -/
inductive IsQuad : List Char → Nat → Prop
  | digits {a b c d : Char} {w x y z : Nat} (ha : Text.hexDigit? a = some w)
      (hb : Text.hexDigit? b = some x) (hc : Text.hexDigit? c = some y)
      (hd : Text.hexDigit? d = some z) : IsQuad [a, b, c, d] (((w * 16 + x) * 16 + y) * 16 + z)

/-- The escapes of one letter, and what they stand for. -/
def shortEscapes : List (Char × Char) :=
  [('"', '"'), ('\\', '\\'), ('/', '/'), ('b', '\x08'), ('f', '\x0c'), ('n', '\n'), ('r', '\r'),
    ('t', '\t')]

/-- A character that stands for itself in a string. -/
structure IsPlain (c : Char) : Prop where
  ne_quote : c ≠ '"'
  ne_backslash : c ≠ '\\'
  not_control : ¬ c.toNat < 0x20

/-- What may stand between the quotes of a string. Here four digits may be half of a surrogate pair,
which the grammar does not forbid. -/
inductive IsCharacters : List Char → Prop
  | nil : IsCharacters []
  | plain {c : Char} {cs : List Char} (hc : IsPlain c) (h : IsCharacters cs) :
      IsCharacters (c :: cs)
  | short {e c : Char} {cs : List Char} (he : (e, c) ∈ shortEscapes) (h : IsCharacters cs) :
      IsCharacters ('\\' :: e :: cs)
  | unit {q cs : List Char} {n : Nat} (hq : IsQuad q n) (h : IsCharacters cs) :
      IsCharacters ('\\' :: 'u' :: (q ++ cs))

/-- What stands between the quotes of a string that spells a text: each character may be
written plainly or escaped, and one beyond the basic plane by two escapes. -/
inductive Spells : List Char → List Char → Prop
  | nil : Spells [] []
  | plain {c : Char} {text cs : List Char} (hc : IsPlain c) (h : Spells text cs) :
      Spells (c :: text) (c :: cs)
  | short {e c : Char} {text cs : List Char} (he : (e, c) ∈ shortEscapes) (h : Spells text cs) :
      Spells (c :: text) ('\\' :: e :: cs)
  | unit {q text cs : List Char} {n : Nat} (hq : IsQuad q n) (hn : n < 0xD800 ∨ 0xDFFF < n)
      (h : Spells text cs) : Spells (Char.ofNat n :: text) ('\\' :: 'u' :: (q ++ cs))
  | pair {q q' text cs : List Char} {high low : Nat} (hq : IsQuad q high) (hq' : IsQuad q' low)
      (hhigh : 0xD800 ≤ high ∧ high ≤ 0xDBFF) (hlow : 0xDC00 ≤ low ∧ low ≤ 0xDFFF)
      (h : Spells text cs) :
      Spells (Char.ofNat (0x10000 + (high - 0xD800) * 0x400 + (low - 0xDC00)) :: text)
        ('\\' :: 'u' :: (q ++ '\\' :: 'u' :: (q' ++ cs)))

/-- What spells a text may stand between quotes; the converse fails for half a surrogate pair. -/
theorem Spells.isCharacters {text cs : List Char} (h : Spells text cs) : IsCharacters cs := by
  induction h with
  | nil => exact .nil
  | plain hc _ ih => exact .plain hc ih
  | short he _ ih => exact .short he ih
  | unit hq _ _ ih => exact .unit hq ih
  | pair hq hq' _ _ _ ih => exact .unit hq (.unit hq' ih)

/-! ## Values -/

inductive Nonterminal where
  | value
  /-- A value with the blanks around it. -/
  | element
  | elements
  | member
  | members

/-- The grammar of texts: one rule for each way in which a value or a part of one may be written. -/
inductive Derives : Nonterminal → List Char → Prop
  | null : Derives .value ['n', 'u', 'l', 'l']
  | true : Derives .value ['t', 'r', 'u', 'e']
  | false : Derives .value ['f', 'a', 'l', 's', 'e']
  | numeral {cs : List Char} (h : IsNumeral cs) : Derives .value cs
  | negative {cs : List Char} (h : IsNumeral cs) : Derives .value ('-' :: cs)
  | string {cs : List Char} (h : IsCharacters cs) : Derives .value ('"' :: (cs ++ ['"']))
  | emptyArray {w : List Char} (hw : IsSpaces w) : Derives .value ('[' :: (w ++ [']']))
  | array {cs : List Char} (h : Derives .elements cs) : Derives .value ('[' :: (cs ++ [']']))
  | emptyObject {w : List Char} (hw : IsSpaces w) : Derives .value ('\x7b' :: (w ++ ['\x7d']))
  | object {cs : List Char} (h : Derives .members cs) :
      Derives .value ('\x7b' :: (cs ++ ['\x7d']))
  | element {w cs w' : List Char} (hw : IsSpaces w) (h : Derives .value cs) (hw' : IsSpaces w') :
      Derives .element (w ++ (cs ++ w'))
  | lastElement {cs : List Char} (h : Derives .element cs) : Derives .elements cs
  | elements {cs ds : List Char} (h : Derives .element cs) (hrest : Derives .elements ds) :
      Derives .elements (cs ++ ',' :: ds)
  | member {w key w' cs : List Char} (hw : IsSpaces w) (hkey : IsCharacters key)
      (hw' : IsSpaces w') (h : Derives .element cs) :
      Derives .member (w ++ '"' :: (key ++ '"' :: (w' ++ ':' :: cs)))
  | lastMember {cs : List Char} (h : Derives .member cs) : Derives .members cs
  | members {cs ds : List Char} (h : Derives .member cs) (hrest : Derives .members ds) :
      Derives .members (cs ++ ',' :: ds)

end SchemaSeed.Json
