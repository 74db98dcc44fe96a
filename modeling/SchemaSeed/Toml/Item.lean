import SchemaSeed.Assoc

/-!
# Configuration documents as data

A document is a tree of tables. Values that no setting can use, which are floats and
dates, are kept without their contents. While a document is put together, a table carries
marks that say how it came about, since this decides who may still add to it.
-/

namespace SchemaSeed.Toml

structure Marks where
  /-- Only named on the way to another table. -/
  implicit : Bool
  /-- Made by a dotted key. -/
  dotted : Bool
  /-- Written between braces. -/
  inline : Bool
  deriving DecidableEq, Repr, Inhabited

inductive Item where
  | string (value : String)
  | integer (value : Int)
  | float
  | boolean (value : Bool)
  | datetime
  | array (items : List Item)
  | table (marks : Marks) (entries : List (String × Item))
  /-- An array of tables, each with a header of its own. -/
  | tables (elements : List (List (String × Item)))
  deriving Repr, Inhabited

structure Table where
  marks : Marks
  entries : List (String × Item)
  deriving Repr, Inhabited

namespace Table

/-- A table with a header of its own, or the whole document. -/
def plain : Table := ⟨⟨false, false, false⟩, []⟩

def onTheWay (dotted inline : Bool) : Table := ⟨⟨true, dotted, inline⟩, []⟩

def toItem (t : Table) : Item := .table t.marks t.entries

end Table

/-! ### Adding to a table -/

/-- Changes the table that a path leads to from `t`. Tables on the way are made as needed, and
in an array of tables the last one is meant. A dotted path leads only through tables that
were never defined on their own, and no path through a value. -/
def Table.descend (dotted : Bool) (change : Table → Option Table) :
    List String → Table → Option Table
  | [], t => change t
  | key :: path, t => do
    let entry ←
      match Assoc.find? t.entries key with
      | none =>
        (descend dotted change path (.onTheWay dotted t.marks.inline)).map Table.toItem
      | some (.table marks entries) =>
        if marks.inline ≠ t.marks.inline ∨ (dotted ∧ ¬ marks.implicit) then none
        else (descend dotted change path ⟨marks, entries⟩).map Table.toItem
      | some (.tables elements) =>
        match elements.getLast? with
        | none => none
        | some entries =>
          (descend dotted change path ⟨Table.plain.marks, entries⟩).map fun t =>
            .tables (elements.dropLast ++ [t.entries])
      | some _ => none
    return { t with entries := Assoc.insert t.entries key entry }

def Table.addEntry (key : String) (item : Item) (t : Table) : Option Table :=
  if Assoc.contains t.entries key then none
  else some { t with entries := Assoc.insert t.entries key item }

/-- Adds the value of a dotted key, whose last name is `key`. A key with dots must end in a
table that was itself made by dots. -/
def Table.addValue (path : List String) (key : String) (item : Item) : Table → Option Table :=
  Table.descend true
    (fun t => if t.marks.dotted = path.isEmpty then none else t.addEntry key item) path

end SchemaSeed.Toml
