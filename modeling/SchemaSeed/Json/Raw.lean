import SchemaSeed.Json.Skim

/-!
# The entries of a container as they are written

A list or an object can be taken apart without being read: its entries and keys are checked
against the grammar, but kept as the texts that stand in the document.
-/

namespace SchemaSeed.Json

def upTo (cs : List Char) (left : Nat) : List Char := cs.take (cs.length - left)

/-- A string as it is written, quotes included; the first quote was read. -/
def rawLiteral : Reader (List Char) := fun rest =>
  match h : skimText rest with
  | .error fault => .error fault
  | .ok rest' => .ok ⟨'"' :: upTo rest rest'.length, rest', shorter_of_skimText h⟩

/-- A value as it is written, without the blanks before it. -/
def rawValue : Reader (List Char) := fun cs =>
  (skim cs).map fun t => t.map fun _ => upTo (skipSpace cs) t.rest.length

/-- A container whose entries are kept as they are written. -/
inductive RawContainer where
  | list (items : List (List Char))
  | object (members : List (List Char × List Char))
  deriving Repr

def rawContainer : Reader RawContainer := fun cs =>
  match openingFrom (skipSpace cs) with
  | .error fault => .error fault
  | .ok opening =>
    match opening with
    | .list rest h =>
      (listFrom rawValue rest).map fun t =>
        (t.map .list).widen (length_le_of_lt_skipSpace h)
    | .object rest h =>
      (memberList rawLiteral rawValue true [] rest (length_le_self rest)).map fun t =>
        (t.map .object).widen (length_le_of_lt_skipSpace h)
    | _ => .error (unexpected "a list or a map" cs opening)

end SchemaSeed.Json
