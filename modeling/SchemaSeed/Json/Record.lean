import SchemaSeed.Json.Skim

/-!
# Reading records from a text

A record is an object with known fields, in any order, or an array that gives the fields
in their order. Unknown members of an object are passed over; a field that comes twice,
or not at all, is a fault.
-/

namespace SchemaSeed.Json

/-- A field of a record that is kept in a draft `σ` while it is read. -/
structure FieldReader (σ : Type u) where
  name : String
  isSet : σ → Bool
  read : σ → Reader σ

/-- A record that is built from a draft once all its fields are set. -/
structure RecordReader (σ : Type u) (α : Type v) where
  name : String
  fields : List (FieldReader σ)
  blank : σ
  build : σ → Option α

namespace RecordReader

variable {σ : Type u} {α : Type v}

def memberValue (r : RecordReader σ α) (state : σ) (k : Taken String n) :
    Except Fault (Taken σ k.rest.length) :=
  match r.fields.find? fun f => f.name == k.value with
  | some f =>
    if f.isSet state then
      .error (.before (.mismatch (.duplicateField f.name)) (afterClosing k.rest))
    else
      match colon k.rest with
      | .error fault => .error fault
      | .ok c => (f.read state c.rest).map (·.widen (Nat.le_of_lt c.shorter))
  | none =>
    match colon k.rest with
    | .error fault => .error fault
    | .ok c => (skim c.rest).map fun t => (t.map fun _ => state).widen (Nat.le_of_lt c.shorter)
where
  /-- A refused key is followed by an attempt to close the object. -/
  afterClosing (cs : List Char) : List Char :=
    match skipSpace cs with
    | c :: rest => if c = '\x7d' then rest else c :: rest
    | [] => []

def members (r : RecordReader σ α) {bound : Nat} (first : Bool) (state : σ) (cs : List Char)
    (h : cs.length ≤ bound) : Except Fault (Taken σ bound) :=
  match objectTurn stringFrom first cs with
  | .error fault => .error fault
  | .ok (.close rest hr) => .ok ⟨state, rest, Nat.lt_of_lt_of_le hr h⟩
  | .ok (.key k) =>
    match r.memberValue state k with
    | .error fault => .error fault
    | .ok t =>
      have := k.shorter; have := t.shorter
      members r false t.value t.rest (by omega)
termination_by cs.length

def closeArray (cs : List Char) : Reading Unit cs :=
  match h : skipSpace cs with
  | [] => .error (.ahead .endInList [])
  | c :: rest =>
    if c = ']' then .ok ⟨(), rest, length_lt_of_skipSpace h⟩
    else if c = ',' then
      match skipSpace rest with
      | d :: rest' =>
        .error (.ahead (if d = ']' then .trailingComma else .trailingCharacters) (d :: rest'))
      | [] => .error (.ahead .trailingCharacters [])
    else .error (.ahead .trailingCharacters (c :: rest))

/-- The fields of an array in their order; `count` of them were read. -/
def items (r : RecordReader σ α) {bound : Nat} (count : Nat) (state : σ) (cs : List Char)
    (h : cs.length ≤ bound) : List (FieldReader σ) → Except Fault (Taken σ bound)
  | [] => (closeArray cs).map fun t => (t.map fun _ => state).widen h
  | f :: fields =>
    match listTurn (count = 0) cs with
    | .error fault => .error fault
    | .ok (.close rest _) =>
      .error (.before (.mismatch (.wrongLength count
        (r.name ++ " with " ++ toString r.fields.length ++ " elements"))) rest)
    | .ok (.entry rest hr) =>
      match f.read state rest with
      | .error fault => .error fault
      | .ok t => items r (count + 1) t.value t.rest
          (by have := t.shorter; omega) fields

/-- The record itself, once its draft is complete; `rest` follows it. -/
def finish (r : RecordReader σ α) (state : σ) (rest : List Char) : Except Fault α :=
  match r.fields.find? fun f => !f.isSet state with
  | some f => .error (.before (.mismatch (.missingField f.name)) rest)
  | none =>
    match r.build state with
    | some a => .ok a
    | none => .error (.before (.mismatch (.missingField r.name)) rest)

def read (r : RecordReader σ α) (cs : List Char) : Reading α cs :=
  have hs := length_skipSpace_le cs
  match openingFrom (skipSpace cs) with
  | .error fault => .error fault
  | .ok opening =>
    match opening with
    | .object rest h => complete (r.members true r.blank rest (by omega))
    | .list rest h => complete (r.items 0 r.blank rest (by omega) r.fields)
    | _ => .error (unexpected r.name cs opening)
where
  complete {n : Nat} : Except Fault (Taken σ n) → Except Fault (Taken α n)
    | .error fault => .error fault
    | .ok t =>
      match r.finish t.value t.rest with
      | .error fault => .error fault
      | .ok a => .ok ⟨a, t.rest, t.shorter⟩

end RecordReader

end SchemaSeed.Json
