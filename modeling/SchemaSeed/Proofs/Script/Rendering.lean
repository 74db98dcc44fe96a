import SchemaSeed.Script.Declaration

/-!
# Declarations as they are written

A script of table declarations, with every choice that its author has: the case of the
letters of keywords, the blanks, quotes around names, names of schemas, and the optional
clauses. The parts of a declaration carry the proofs that they are what they should be, so
that a `Declaration` always has a text (`Declaration.text`) and a meaning
(`Declaration.fact`), and a list of them is a script (`render`).
-/

namespace SchemaSeed.Script

open Text (isBlank isWord)

/-! ## Words and blanks -/

structure Blanks where
  text : List Char
  blank : ∀ c ∈ text, isBlank c = true

structure Gap extends Blanks where
  ne_nil : text ≠ []

structure Word where
  text : List Char
  word : ∀ c ∈ text, isWord c = true
  ne_nil : text ≠ []

def IsSmall (word : String) : Prop := ∀ k ∈ word.toList, k.isLower = true

instance (word : String) : Decidable (IsSmall word) :=
  decidable_of_iff (word.toList.all Char.isLower = true) List.all_eq_true

/-- A keyword, given in small letters, with letters of any case. That the word itself is small and
not empty is decided where a keyword is made. -/
structure Keyword (word : String) where
  text : List Char
  spells : text.map Char.toLower = word.toList
  letters : IsSmall word := by decide
  ne_nil : word.toList ≠ [] := by decide

/-- A keyword and the blanks after it. -/
structure SpacedKeyword (word : String) where
  keyword : Keyword word
  gap : Gap

def SpacedKeyword.text (k : SpacedKeyword word) : List Char := k.keyword.text ++ k.gap.text

/-- What stands between the parentheses around columns: words with blanks and commas. There may be
any number of them, and no parenthesis. -/
structure Columns where
  text : List Char
  plain : ∀ c ∈ text, isWord c = true ∨ isBlank c = true ∨ c = ','

def Columns.enclosed (columns : Columns) : List Char := '(' :: columns.text ++ [')']

/-! ## Names -/

structure Identifier where
  word : Word
  quoted : Bool

def Identifier.text (i : Identifier) : List Char :=
  if i.quoted then '"' :: i.word.text ++ ['"'] else i.word.text

/-- The name of a schema, and the point after it. -/
structure Qualifier where
  schema : Identifier
  beforePoint : Blanks
  afterPoint : Blanks

def Qualifier.text (q : Qualifier) : List Char :=
  q.schema.text ++ q.beforePoint.text ++ '.' :: q.afterPoint.text

/-- The name of a table, perhaps after that of its schema. At most one schema is named. -/
structure TableName where
  qualifier : Option Qualifier
  identifier : Identifier

def TableName.qualifierText (n : TableName) : List Char := (n.qualifier.map Qualifier.text).getD []

def TableName.text (n : TableName) : List Char := n.qualifierText ++ n.identifier.text

def TableName.name (n : TableName) : String := String.ofList n.identifier.word.text

/-! ## What stands before the name -/

inductive Scope where
  | everywhere (keyword : SpacedKeyword "global")
  | here (keyword : SpacedKeyword "local")

def Scope.text : Scope → List Char
  | .everywhere keyword => keyword.text
  | .here keyword => keyword.text

inductive Temporary where
  | long (keyword : SpacedKeyword "temporary")
  | short (keyword : SpacedKeyword "temp")

def Temporary.text : Temporary → List Char
  | .long keyword => keyword.text
  | .short keyword => keyword.text

inductive Modifier where
  | temporary (scope : Option Scope) (keyword : Temporary)
  | unlogged (keyword : SpacedKeyword "unlogged")

def Modifier.text : Modifier → List Char
  | .temporary scope keyword => (scope.map Scope.text).getD [] ++ keyword.text
  | .unlogged keyword => keyword.text

structure Guard where
  condition : SpacedKeyword "if"
  negation : SpacedKeyword "not"
  existence : SpacedKeyword "exists"

def Guard.text (g : Guard) : List Char := g.condition.text ++ g.negation.text ++ g.existence.text

/-! ## Items and declarations -/

/-- `FOREIGN KEY (...) REFERENCES`, the name of a table, and perhaps its columns. -/
structure ForeignKey where
  foreign : SpacedKeyword "foreign"
  key : Keyword "key"
  beforeColumns : Blanks
  columns : Columns
  afterColumns : Blanks
  references : SpacedKeyword "references"
  target : TableName
  targetColumns : Option (Blanks × Columns)

/-- The columns of the table that a foreign key refers to. -/
def ForeignKey.targetText (k : ForeignKey) : List Char :=
  (k.targetColumns.map fun (blanks, columns) => blanks.text ++ columns.enclosed).getD []

def ForeignKey.text (k : ForeignKey) : List Char :=
  k.foreign.text ++ k.key.text ++ k.beforeColumns.text ++ k.columns.enclosed ++
    k.afterColumns.text ++ k.references.text ++ k.target.text ++ k.targetText

inductive Item where
  /-- The name of a column and its type. -/
  | column (name : Word) (gap : Gap) (type : Word)
  | foreignKey (key : ForeignKey)

def Item.text : Item → List Char
  | .column name gap type => name.text ++ gap.text ++ type.text
  | .foreignKey key => key.text

def Item.reference? : Item → Option String
  | .column _ _ _ => none
  | .foreignKey key => some key.target.name

structure PaddedItem where
  before : Blanks
  item : Item
  after : Blanks

def PaddedItem.text (p : PaddedItem) : List Char := p.before.text ++ p.item.text ++ p.after.text

structure Declaration where
  before : Blanks
  create : SpacedKeyword "create"
  modifier : Option Modifier
  table : SpacedKeyword "table"
  guard : Option Guard
  name : TableName
  beforeItems : Blanks
  afterOpening : Blanks
  items : List PaddedItem
  after : Blanks

namespace Declaration

variable (d : Declaration)

def modifierText : List Char := (d.modifier.map Modifier.text).getD []

def guardText : List Char := (d.guard.map Guard.text).getD []

def itemsText : List Char := [','].intercalate (d.items.map PaddedItem.text)

def head : List Char := d.create.text ++ d.modifierText ++ d.table.text ++ d.guardText

def body : List Char :=
  d.beforeItems.text ++ '(' :: d.afterOpening.text ++ d.itemsText ++ [')']

def statement : List Char := d.head ++ d.name.text ++ d.body

def text : List Char := d.before.text ++ d.statement ++ d.after.text

/-- The tables that the declaration refers to, in the order of the text. -/
def references : List String := d.items.filterMap (·.item.reference?)

/-- What the declaration says about its table. The schema, the quotes and the case of letters are
lost in it. -/
def fact : TableDependency := ⟨Text.toLowercase d.name.name, d.references.map Text.toLowercase⟩

end Declaration

def render (declarations : List Declaration) : String :=
  String.ofList ([';'].intercalate (declarations.map Declaration.text))

/-! ## Classes of characters -/

def blankCodes : List Nat :=
  [9, 10, 11, 12, 13, 0x20, 0x85, 0xA0, 0x1680, 0x2000, 0x2001, 0x2002, 0x2003, 0x2004, 0x2005,
    0x2006, 0x2007, 0x2008, 0x2009, 0x200A, 0x2028, 0x2029, 0x202F, 0x205F, 0x3000]

/-- The class of blanks is small enough to be listed, which makes the next facts a matter of looking
up. -/
theorem mem_blankCodes {c : Char} (h : isBlank c = true) : c.toNat ∈ blankCodes := by
  simp only [isBlank, Bool.or_eq_true, Bool.and_eq_true, decide_eq_true_eq, beq_iff_eq] at h
  simp only [blankCodes, List.mem_cons, List.not_mem_nil, or_false]
  omega

theorem isWord_of_mem_blankCodes : ∀ n ∈ blankCodes, isWord (Char.ofNat n) = false := by
  decide +kernel

/-- No blank is a word character, so words and gaps tell each other's ends. -/
theorem isWord_of_isBlank {c : Char} (h : isBlank c = true) : isWord c = false := by
  have hword := isWord_of_mem_blankCodes c.toNat (mem_blankCodes h)
  rwa [Char.ofNat_toNat] at hword

theorem isBlank_of_isWord {c : Char} (h : isWord c = true) : isBlank c = false := by
  rw [Bool.eq_false_iff]
  intro hblank
  rw [isWord_of_isBlank hblank] at h
  cases h

/-- Only ASCII has small letters in the sense of `Char.isLower`. -/
theorem toNat_lt_of_toLower {c : Char} (h : c.toLower.isLower = true) : c.toNat < 128 := by
  unfold Char.toLower at h
  split at h
  · next hupper =>
    have := UInt32.le_iff_toNat_le.1 hupper.2
    exact Nat.lt_of_le_of_lt this (by decide)
  · have hlower : decide (c.val ≤ 'z'.val) = true := (Bool.and_eq_true_iff.1 h).2
    have := UInt32.le_iff_toNat_le.1 (of_decide_eq_true hlower)
    exact Nat.lt_of_le_of_lt this (by decide)

/-- A letter of ASCII is a word character, in either case. -/
theorem isWord_of_toLower {c : Char} (h : c.toLower.isLower = true) : isWord c = true := by
  have hascii : ∀ n, n < 128 → (Char.ofNat n).toLower.isLower = true →
      isWord (Char.ofNat n) = true := by decide +kernel
  have hc := hascii c.toNat (toNat_lt_of_toLower h)
  rw [Char.ofNat_toNat] at hc
  exact hc h

/-- Without the semicolons, a script of declarations is made of such characters. None of them begins
a comment or a literal, or ends a statement. -/
def isPlain (c : Char) : Bool := isWord c || isBlank c || ".,()\"".toList.contains c

def Plain (cs : List Char) : Prop := ∀ c ∈ cs, isPlain c = true

theorem plain_nil : Plain [] := fun _ h => (List.not_mem_nil h).elim

theorem Plain.append {as bs : List Char} (ha : Plain as) (hb : Plain bs) : Plain (as ++ bs) := by
  intro c h
  rcases List.mem_append.1 h with h | h
  · exact ha c h
  · exact hb c h

theorem Plain.cons {c : Char} {cs : List Char} (hc : isPlain c = true) (hcs : Plain cs) :
    Plain (c :: cs) := by
  intro d h
  rcases List.mem_cons.1 h with rfl | h
  · exact hc
  · exact hcs d h

theorem Plain.singleton {c : Char} (hc : isPlain c = true) : Plain [c] := .cons hc plain_nil

/-- What may be left out is plain when it is there. -/
theorem plain_getD {α : Type} {f : α → List Char} (h : ∀ a, Plain (f a)) (o : Option α) :
    Plain ((o.map f).getD []) := by
  cases o with
  | none => exact plain_nil
  | some a => exact h a

theorem Blanks.plain (b : Blanks) : Plain b.text := fun c h => by simp [isPlain, b.blank c h]

theorem Word.plain (w : Word) : Plain w.text := fun c h => by simp [isPlain, w.word c h]

/-- A keyword is a word, whatever the case of its letters. -/
theorem Keyword.isWord_of_mem (k : Keyword word) {c : Char} (h : c ∈ k.text) :
    isWord c = true := by
  apply isWord_of_toLower
  apply k.letters
  rw [← k.spells]
  exact List.mem_map_of_mem h

theorem SpacedKeyword.plain (k : SpacedKeyword word) : Plain k.text :=
  Plain.append (fun c h => by simp [isPlain, k.keyword.isWord_of_mem h]) k.gap.plain

theorem Columns.plain_text (columns : Columns) : Plain columns.text := by
  intro c h
  rcases columns.plain c h with h | h | rfl
  · simp [isPlain, h]
  · simp [isPlain, h]
  · rfl

theorem Columns.plain_enclosed (columns : Columns) : Plain columns.enclosed :=
  .cons rfl (columns.plain_text.append (.singleton rfl))

theorem Identifier.plain (i : Identifier) : Plain i.text := by
  unfold Identifier.text
  split
  · exact .cons rfl (i.word.plain.append (.singleton rfl))
  · exact i.word.plain

theorem Qualifier.plain (q : Qualifier) : Plain q.text :=
  (q.schema.plain.append q.beforePoint.plain).append (.cons rfl q.afterPoint.plain)

theorem TableName.plain (n : TableName) : Plain n.text :=
  (plain_getD Qualifier.plain _).append n.identifier.plain

end SchemaSeed.Script
