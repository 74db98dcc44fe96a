import SchemaSeed.Toml.Item
import SchemaSeed.Toml.Scalar

/-!
# Configuration documents

A document is a sequence of lines: values for keys, and headers that name the table to which
the next values belong. `parse` gives the table of the whole document, or nothing when the
text is not well formed or defines something twice.
-/

namespace SchemaSeed.Toml

/-! ### Values -/

/-- The entries of an array, separated by commas; one more comma may follow the last. -/
def arrayFrom (item : Scan Item) : (fuel : Nat) → (done : List Item) → Scan Item
  | 0, _, _ => none
  | fuel + 1, done, cs =>
    match skipSpace cs with
    | ']' :: rest => some (.array done.reverse, rest)
    | cs => do
      let (v, rest) ← item cs
      match skipSpace rest with
      | ',' :: rest => arrayFrom item fuel (v :: done) rest
      | ']' :: rest => return (.array (v :: done).reverse, rest)
      | _ => none

def assignment (item : Scan Item) (cs : List Char) :
    Option ((List String × String × Item) × List Char) := do
  let ((path, name), rest) ← key cs
  match rest with
  | '=' :: rest =>
    let (v, rest) ← item (skipBlanks rest)
    return ((path, name, v), rest)
  | _ => none

/-- The entries of a table between braces; they are all on one line. -/
def bracesFrom (item : Scan Item) : (fuel : Nat) → Table → Scan Item
  | 0, _, _ => none
  | fuel + 1, t, cs => do
    let ((path, name, v), rest) ← assignment item cs
    let t ← t.addValue path name v
    match skipBlanks rest with
    | ',' :: rest => bracesFrom item fuel t rest
    | '\x7d' :: rest => return (t.toItem, rest)
    | _ => none

def braces (item : Scan Item) (cs : List Char) : Option (Item × List Char) :=
  let t : Table := ⟨⟨false, false, true⟩, []⟩
  match skipBlanks cs with
  | '\x7d' :: rest => some (t.toItem, rest)
  | _ => bracesFrom item (cs.length + 1) t cs

def numeric (cs : List Char) : Option (Item × List Char) :=
  (datetime cs).map (fun (_, rest) => (.datetime, rest))
    |>.or ((float cs).map fun (_, rest) => (.float, rest))
    |>.or ((integer cs).map fun (n, rest) => (.integer n, rest))

/-- A value with fewer than `depth` arrays and tables inside one another. -/
def value : (depth : Nat) → Scan Item
  | depth, cs =>
    match cs with
    | [] => none
    | c :: rest =>
      if c = '"' ∨ c = '\'' then (string cs).map fun (s, rest) => (.string s, rest)
      else if c = '[' then
        match depth with
        | 0 | 1 => none
        | depth + 1 => arrayFrom (value depth) (rest.length + 1) [] rest
      else if c = '\x7b' then
        match depth with
        | 0 | 1 => none
        | depth + 1 => braces (value depth) rest
      else if c = '+' ∨ c = '-' ∨ c.isDigit then numeric cs
      else
        match cs with
        | 't' :: 'r' :: 'u' :: 'e' :: rest => some (.boolean true, rest)
        | 'f' :: 'a' :: 'l' :: 's' :: 'e' :: rest => some (.boolean false, rest)
        | _ => (specialFloat cs).map fun (_, rest) => (.float, rest)

/-! ### Lines -/

inductive Line where
  | value (path : List String) (name : String) (item : Item)
  /-- The header of a table. -/
  | header (path : List String) (name : String)
  /-- The header of a further table in an array of tables. -/
  | arrayHeader (path : List String) (name : String)

def line : Scan Line
  | '[' :: '[' :: cs => do
    match ← key cs with
    | ((path, name), ']' :: ']' :: rest) => return (.arrayHeader path name, ← endLine rest)
    | _ => none
  | '[' :: cs => do
    match ← key cs with
    | ((path, name), ']' :: rest) => return (.header path name, ← endLine rest)
    | _ => none
  | cs => do
    let ((path, name, v), rest) ← assignment (value depthLimit) cs
    return (.value path name v, ← endLine rest)

def linesOf : (fuel : Nat) → List Char → Option (List Line)
  | 0, _ => none
  | fuel + 1, cs =>
    match skipSpace cs with
    | [] => some []
    | cs => do
      let (l, rest) ← line cs
      return l :: (← linesOf fuel rest)

/-! ### Putting the lines together -/

/-- A document that is being put together. -/
structure Draft where
  /-- The tables that are complete. -/
  root : Table
  /-- The table to which values belong. -/
  current : Table
  /-- The header of the current table; without one it is the root. -/
  header : Option (List String × String)
  /-- Whether the current table is an element of an array. -/
  isElement : Bool

namespace Draft

def empty : Draft := ⟨.plain, .plain, none, false⟩

/-- Puts the current table at the place that its header names. -/
def close (d : Draft) : Option Table :=
  match d.header with
  | none => some d.current
  | some (path, name) =>
    d.root.descend false (fun t =>
      if d.isElement then
        match Assoc.find? t.entries name with
        | none => some { t with
            entries := Assoc.insert t.entries name (.tables [d.current.entries]) }
        | some (.tables elements) =>
          some { t with
            entries := Assoc.insert t.entries name (.tables (elements ++ [d.current.entries])) }
        | some _ => none
      else t.addEntry name d.current.toItem) path

/-- Opens the table of a header. One that was only named on the way so far is taken over. -/
def openTable (root : Table) (path : List String) (name : String) : Option Draft := do
  let parent ← find root path
  let current ←
    match Assoc.find? parent.entries name with
    | none => some Table.plain
    | some (.table marks entries) =>
      if marks.implicit ∧ ¬ marks.dotted then some { Table.plain with entries } else none
    | some _ => none
  let root ← root.descend false
    (fun t => some { t with entries := t.entries.filter (·.1 != name) }) path
  return ⟨root, current, some (path, name), false⟩
where
  /-- The table that a path leads to; an empty one if nothing is there yet. -/
  find (t : Table) : List String → Option Table
    | [] => some t
    | key :: path =>
      match Assoc.find? t.entries key with
      | none => some .plain
      | some (.table marks entries) =>
        if marks.inline then none else find ⟨marks, entries⟩ path
      | some (.tables elements) => do find ⟨Table.plain.marks, ← elements.getLast?⟩ path
      | some _ => none

def openElement (root : Table) (path : List String) (name : String) : Option Draft := do
  let root ← root.descend false (fun t =>
    match Assoc.find? t.entries name with
    | none => some { t with entries := Assoc.insert t.entries name (.tables []) }
    | some (.tables _) => some t
    | some _ => none) path
  return ⟨root, .plain, some (path, name), true⟩

def add (d : Draft) : Line → Option Draft
  | .value path name v => do return { d with current := ← d.current.addValue path name v }
  | .header path name => do openTable (← d.close) path name
  | .arrayHeader path name => do openElement (← d.close) path name

end Draft

/-- The table of a whole document. A byte order mark in front is dropped. -/
def parse (source : String) : Option Table := do
  let cs :=
    match source.toList with
    | '\uFEFF' :: rest => rest
    | cs => cs
  (← (← linesOf (cs.length + 1) cs).foldlM Draft.add Draft.empty).close

end SchemaSeed.Toml
