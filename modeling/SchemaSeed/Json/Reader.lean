import SchemaSeed.Json.Numeral
import SchemaSeed.Assoc

/-!
# Reading JSON

A reader takes a value from the front of a text and hands on a shorter text, so that a
reader of lists or objects can be built from a reader of one entry. `value` reads any
document up to a given depth; `string`, `bool`, `list` and `object` read one type and
name the type that they found instead.

A value may be embedded as a text: an object whose first key is `embeddedKey` stands for the
value whose text it holds, however deep that value is, and for no object.
-/

namespace SchemaSeed.Json

/-- A value, and a rest of fewer than `bound` characters. -/
structure Taken (α : Type u) (bound : Nat) where
  value : α
  rest : List Char
  shorter : rest.length < bound

/-- The outcome of reading an `α` from the front of `cs`. -/
abbrev Reading (α : Type u) (cs : List Char) := Except Fault (Taken α cs.length)

abbrev Reader (α : Type u) := (cs : List Char) → Reading α cs

def Taken.map (f : α → β) (t : Taken α n) : Taken β n := ⟨f t.value, t.rest, t.shorter⟩

def Taken.widen (h : m ≤ n) (t : Taken α m) : Taken α n :=
  ⟨t.value, t.rest, Nat.lt_of_lt_of_le t.shorter h⟩

/-! ### The first token of a value -/

/-- A scalar that was read whole, or the bracket that opens a container. -/
inductive Opening (bound : Nat) where
  | scalar (taken : Taken Value bound)
  | list (rest : List Char) (shorter : rest.length < bound)
  | object (rest : List Char) (shorter : rest.length < bound)

def wordFrom (word : List Char) (v : Value) (rest : List Char) :
    Except Fault (Opening (rest.length + 1)) :=
  match h : letters word rest with
  | .error fault => .error fault
  | .ok rest' => .ok (.scalar ⟨v, rest', Nat.lt_succ_of_le (length_le_of_letters h)⟩)

def numeralFrom (negative : Bool) (cs : List Char) : Except Fault (Opening cs.length) :=
  match h : numeral negative cs with
  | .error fault => .error fault
  | .ok (n, rest) => .ok (.scalar ⟨.number n, rest, shorter_of_numeral h⟩)

def stringFrom (rest : List Char) : Reading String rest :=
  match h : textFrom [] rest with
  | .error fault => .error fault
  | .ok (text, rest') => .ok ⟨String.ofList text, rest', shorter_of_textFrom h⟩

def Opening.widen (h : m ≤ n) : Opening m → Opening n
  | .scalar t => .scalar (t.widen h)
  | .list rest hr => .list rest (Nat.lt_of_lt_of_le hr h)
  | .object rest hr => .object rest (Nat.lt_of_lt_of_le hr h)

/-- The first token of a value, with no blank before it. -/
def openingFrom : (cs : List Char) → Except Fault (Opening cs.length)
  | [] => .error (.ahead .endInValue [])
  | c :: rest =>
    if c = 'n' then wordFrom ['u', 'l', 'l'] .null rest
    else if c = 't' then wordFrom ['r', 'u', 'e'] (.bool true) rest
    else if c = 'f' then wordFrom ['a', 'l', 's', 'e'] (.bool false) rest
    else if c = '-' then (numeralFrom true rest).map (·.widen (Nat.le_succ _))
    else if c.isDigit then numeralFrom false (c :: rest)
    else if c = '"' then
      (stringFrom rest).map fun t => .scalar ((t.map .string).widen (Nat.le_succ _))
    else if c = '[' then .ok (.list rest (length_lt_cons c rest))
    else if c = '\x7b' then .ok (.object rest (length_lt_cons c rest))
    else .error (.ahead .expectedValue (c :: rest))

/-! ### Entries of lists and objects -/

/-- What comes next in a list: its end, or an entry. -/
inductive ListTurn (bound : Nat) where
  | close (rest : List Char) (shorter : rest.length < bound)
  | entry (rest : List Char) (le : rest.length ≤ bound)

/-- What follows an entry of a list, or its opening bracket when `first` holds. -/
def listTurn (first : Bool) (cs : List Char) : Except Fault (ListTurn cs.length) :=
  match h : skipSpace cs with
  | [] => .error (.ahead .endInList [])
  | c :: rest =>
    have hle := length_le_of_skipSpace h
    if c = ']' then .ok (.close rest (length_lt_of_skipSpace h))
    else if first then .ok (.entry (c :: rest) hle)
    else if c = ',' then
      match h' : skipSpace rest with
      | [] => .error (.ahead .endInValue [])
      | d :: rest' =>
        have hle' := length_le_of_skipSpace h'
        if d = ']' then .error (.ahead .trailingComma (d :: rest'))
        else .ok (.entry (d :: rest')
          (Nat.le_trans hle' (Nat.le_trans (Nat.le_succ _) hle)))
    else .error (.ahead .expectedListEnd (c :: rest))

/-- The entries of a list up to its end; `done` holds those before, the last one first. -/
def entries (item : Reader α) {bound : Nat} (first : Bool) (done : List α) (cs : List Char)
    (h : cs.length ≤ bound) : Except Fault (Taken (List α) bound) :=
  match listTurn first cs with
  | .error fault => .error fault
  | .ok (.close rest hr) => .ok ⟨done.reverse, rest, Nat.lt_of_lt_of_le hr h⟩
  | .ok (.entry rest hr) =>
    match item rest with
    | .error fault => .error fault
    | .ok t =>
      have := t.shorter
      entries item false (t.value :: done) t.rest (by omega)
termination_by cs.length

/-- What comes next in an object: its end, or a key. -/
inductive ObjectTurn (κ : Type u) (bound : Nat) where
  | close (rest : List Char) (shorter : rest.length < bound)
  | key (taken : Taken κ bound)

/-- A key at `cs`, with no blank before it. `literal` reads what follows the quote. -/
def keyFrom (literal : Reader κ) (whenAbsent : Cause) : (cs : List Char) → Reading κ cs
  | [] => .error (.ahead .endInValue [])
  | c :: rest =>
    if c = '"' then (literal rest).map (·.widen (Nat.le_succ _))
    else .error (.ahead whenAbsent (c :: rest))

/-- What follows a member of an object, or its opening brace when `first` holds. -/
def objectTurn (literal : Reader κ) (first : Bool) (cs : List Char) :
    Except Fault (ObjectTurn κ cs.length) :=
  match h : skipSpace cs with
  | [] => .error (.ahead .endInObject [])
  | c :: rest =>
    have hle := length_le_of_skipSpace h
    if c = '\x7d' then .ok (.close rest (length_lt_of_skipSpace h))
    else if first then
      (keyFrom literal .keyNotString (c :: rest)).map fun t => .key (t.widen hle)
    else if c = ',' then
      match h' : skipSpace rest with
      | [] => .error (.ahead .endInValue [])
      | d :: rest' =>
        have hle' := length_le_of_skipSpace h'
        let whenAbsent := if d = '\x7d' then .trailingComma else .keyNotString
        (keyFrom literal whenAbsent (d :: rest')).map fun t =>
          .key (t.widen (Nat.le_trans hle' (Nat.le_trans (Nat.le_succ _) hle)))
    else .error (.ahead .expectedObjectEnd (c :: rest))

def colon (cs : List Char) : Reading Unit cs :=
  match h : skipSpace cs with
  | [] => .error (.ahead .endInObject [])
  | c :: rest =>
    if c = ':' then .ok ⟨(), rest, length_lt_of_skipSpace h⟩
    else .error (.ahead .expectedColon (c :: rest))

/-- The members of an object up to its end; `done` holds those before, the last one
first. -/
def memberList (literal : Reader κ) (item : Reader α) {bound : Nat} (first : Bool)
    (done : List (κ × α)) (cs : List Char) (h : cs.length ≤ bound) :
    Except Fault (Taken (List (κ × α)) bound) :=
  match objectTurn literal first cs with
  | .error fault => .error fault
  | .ok (.close rest hr) => .ok ⟨done.reverse, rest, Nat.lt_of_lt_of_le hr h⟩
  | .ok (.key k) =>
    match colon k.rest with
    | .error fault => .error fault
    | .ok c =>
      match item c.rest with
      | .error fault => .error fault
      | .ok t =>
        have := k.shorter; have := c.shorter; have := t.shorter
        memberList literal item false ((k.value, t.value) :: done) t.rest (by omega)
termination_by cs.length

/-- A list, after its bracket, as deep as `item` allows. -/
def listFrom (item : Reader α) (rest : List Char) : Reading (List α) rest :=
  entries item true [] rest (length_le_self rest)

/-- An object, after its brace. A key that comes again replaces its value in place. -/
def objectFrom (item : Reader α) (rest : List Char) : Reading (List (String × α)) rest :=
  (memberList stringFrom item true [] rest (length_le_self rest)).map (·.map Assoc.ofPairs)

/-! ### Scalars of one type -/

/-- A value of another type than expected. The place is after a scalar, but before the
bracket of a container. -/
def unexpected (expected : String) (cs : List Char) : Opening n → Fault
  | .scalar t => .before (.mismatch (.wrongType (.ofValue t.value) expected)) t.rest
  | .list _ _ => .before (.mismatch (.wrongType .sequence expected)) (skipSpace cs)
  | .object _ _ => .before (.mismatch (.wrongType .map expected)) (skipSpace cs)

/-- A value of which `pick` takes what it wants; only scalars qualify. -/
def scalar (expected : String) (pick : Value → Option α) (cs : List Char) : Reading α cs :=
  match openingFrom (skipSpace cs) with
  | .error fault => .error fault
  | .ok opening =>
    match opening with
    | .scalar t =>
      match pick t.value with
      | some a => .ok ⟨a, t.rest, Nat.lt_of_lt_of_le t.shorter (length_skipSpace_le cs)⟩
      | none => .error (unexpected expected cs opening)
    | _ => .error (unexpected expected cs opening)

def string : Reader String :=
  scalar "a string" fun
    | .string s => some s
    | _ => none

def bool : Reader Bool :=
  scalar "a boolean" fun
    | .bool b => some b
    | _ => none

/-! ### Whole texts -/

/-- A whole text: one value, and nothing but blanks after it. -/
def document (item : Reader α) (source : List Char) : Except Fault α :=
  match item source with
  | .error fault => .error fault
  | .ok t =>
    match skipSpace t.rest with
    | [] => .ok t.value
    | rest => .error (.ahead .trailingCharacters rest)

/-! ### Embedded texts -/

/-- The key under which an object holds a value as its text. It must come first. -/
def embeddedKey : String := "$serde_json::private::RawValue"

/-- Whether an object, after its brace, begins with the key of an embedded text; what follows
that key. -/
def embedding? (cs : List Char) : Option (Taken Unit cs.length) :=
  match objectTurn stringFrom true cs with
  | .ok (.key k) => if k.value = embeddedKey then some (k.map fun _ => ()) else none
  | _ => none

def objectEnd (cs : List Char) : Reading Unit cs :=
  match h : skipSpace cs with
  | [] => .error (.ahead .endInObject [])
  | c :: rest =>
    if c = '\x7d' then .ok ⟨(), rest, length_lt_of_skipSpace h⟩
    else .error (.ahead (if c = ',' then .trailingComma else .trailingCharacters) (c :: rest))

def rawText : Reader String :=
  scalar "raw value" fun
    | .string s => some s
    | _ => none

/-- What follows the key of an embedded text: the text, which stands for its value, and the
end of the object. -/
def embeddedFrom (readText : List Char → Except String Value) (cs : List Char) :
    Reading Value cs :=
  match colon cs with
  | .error fault => .error fault
  | .ok c =>
    match rawText c.rest with
    | .error fault => .error fault
    | .ok t =>
      match readText t.value.toList with
      | .error message => .error (.before (.embedded message) t.rest)
      | .ok v =>
        have hle := Nat.le_of_lt (Nat.lt_trans t.shorter c.shorter)
        (objectEnd t.rest).map fun e => (e.map fun _ => v).widen hle

/-! ### Any value -/

/-- Any value with at most `depth` containers inside one another. What is embedded in it is
read by `readText`. -/
def valueWith (readText : List Char → Except String Value) : (depth : Nat) → Reader Value
  | depth, cs =>
    match openingFrom (skipSpace cs) with
    | .error fault => .error fault
    | .ok (.scalar t) => .ok (t.widen (length_skipSpace_le cs))
    | .ok (.list rest h) =>
      have hle := length_le_of_lt_skipSpace h
      match depth with
      | 0 => .error (.ahead .tooDeep (skipSpace cs))
      | depth + 1 =>
        (listFrom (valueWith readText depth) rest).map fun t => (t.map .array).widen hle
    | .ok (.object rest h) =>
      have hle := length_le_of_lt_skipSpace h
      match depth with
      | 0 => .error (.ahead .tooDeep (skipSpace cs))
      | depth + 1 =>
        match embedding? rest with
        | some k =>
          (embeddedFrom readText k.rest).map
            (·.widen (Nat.le_trans (Nat.le_of_lt k.shorter) hle))
        | none =>
          (objectFrom (valueWith readText depth) rest).map fun t => (t.map .object).widen hle

def depthLimit : Nat := 127

/-- An embedded text as a document of its own. A text that is embedded in it is shorter. -/
def readText (source : List Char) : Except String Value :=
  let readShorter (text : List Char) : Except String Value :=
    if text.length < source.length then readText text else .error ""
  (document (valueWith readShorter depthLimit) source).mapError (Fault.message source)
termination_by source.length

/-- Any value with at most `depth` containers inside one another. -/
def value (depth : Nat) : Reader Value := valueWith readText depth

/-! ### Containers of one type -/

/-- A list of entries that `item` reads, one container deeper than they are. -/
def list (depth : Nat) (item : Reader α) (cs : List Char) : Reading (List α) cs :=
  match openingFrom (skipSpace cs) with
  | .error fault => .error fault
  | .ok opening =>
    match opening with
    | .list rest h =>
      if depth = 0 then .error (.ahead .tooDeep (skipSpace cs))
      else (listFrom item rest).map
        (·.widen (length_le_of_lt_skipSpace h))
    | _ => .error (unexpected "a sequence" cs opening)

/-- An object whose members `item` reads, one container deeper than they are. -/
def object (depth : Nat) (item : Reader α) (cs : List Char) : Reading (List (String × α)) cs :=
  match openingFrom (skipSpace cs) with
  | .error fault => .error fault
  | .ok opening =>
    match opening with
    | .object rest h =>
      if depth = 0 then .error (.ahead .tooDeep (skipSpace cs))
      else (objectFrom item rest).map
        (·.widen (length_le_of_lt_skipSpace h))
    | _ => .error (unexpected "a map" cs opening)

/-! ### Texts -/

/-- A whole text, or the message that says why it is not one. -/
def parse (item : Reader α) (source : String) : Except String α :=
  (document item source.toList).mapError (Fault.message source.toList)

def parseValue (source : String) : Except String Value := parse (value depthLimit) source

end SchemaSeed.Json
