import SchemaSeed.Toml.Document

/-!
# Settings from configuration documents

A record takes its fields from the entries of a table by their names, or from the items of
an array in their order. Fields that are missing keep their values; entries and items that
no field wants are passed over.
-/

namespace SchemaSeed.Toml.Decode

def string : Item → Option String
  | .string s => some s
  | _ => none

/-- An integer that is not negative and below `bound`. -/
def natural (bound : Nat) : Item → Option Nat
  | .integer n => if 0 ≤ n ∧ n < bound then some n.toNat else none
  | _ => none

/-- A field of a record that is kept in a draft `σ` while it is read. -/
structure FieldReader (σ : Type u) where
  name : String
  read : σ → Item → Option σ

def fromEntries (fields : List (FieldReader σ)) (draft : σ) (entries : List (String × Item)) :
    Option σ :=
  entries.foldlM (fun draft (name, item) =>
    match fields.find? fun f => f.name == name with
    | some f => f.read draft item
    | none => some draft) draft

def fromItems (draft : σ) : List (FieldReader σ) → List Item → Option σ
  | f :: fields, item :: items => do fromItems (← f.read draft item) fields items
  | _, _ => some draft

/-- A record, whose missing fields are those of `draft`. A date passes for a table without
entries. -/
def record (fields : List (FieldReader σ)) (draft : σ) : Item → Option σ
  | .table _ entries => fromEntries fields draft entries
  | .array items => fromItems draft fields items
  | .tables elements => fromItems draft fields (elements.map (.table Table.plain.marks))
  | .datetime => some draft
  | _ => none

def isEmpty : Item → Bool
  | .array items => items.isEmpty
  | .table _ entries => entries.isEmpty
  | .tables elements => elements.isEmpty
  | _ => false

/-- One of several words: a string, or the key of an empty entry in a table of its own.
Between braces it must be the only entry. -/
def word (words : List (String × α)) : Item → Option α
  | .string s => Assoc.find? words s
  | .table marks ((name, item) :: others) =>
    if isEmpty item ∧ (marks.inline → others.isEmpty) then Assoc.find? words name else none
  | _ => none

end SchemaSeed.Toml.Decode
