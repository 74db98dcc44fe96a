import SchemaSeed.Json.Number

/-!
# Writing JSON

Two layouts of one value: `compact` has no blanks, and `pretty` puts each entry on a line
of its own, indented by two blanks for each bracket around it. Both escape quotes,
backslashes and control characters, and nothing else.
-/

namespace SchemaSeed.Json

def hexDigit (n : Nat) : Char := (Nat.digitChar (n % 16))

def escaped (c : Char) : List Char :=
  if c = '"' then ['\\', '"']
  else if c = '\\' then ['\\', '\\']
  else if c = '\x08' then ['\\', 'b']
  else if c = '\x0c' then ['\\', 'f']
  else if c = '\n' then ['\\', 'n']
  else if c = '\r' then ['\\', 'r']
  else if c = '\t' then ['\\', 't']
  else if c.toNat < 0x20 then
    ['\\', 'u', '0', '0', hexDigit (c.toNat / 16), hexDigit c.toNat]
  else [c]

def literal (s : String) : List Char := '"' :: s.toList.flatMap escaped ++ ['"']

def scalarText : Value → List Char
  | .null => "null".toList
  | .bool b => if b then "true".toList else "false".toList
  | .number n => n.text
  | .string s => literal s
  | _ => []

mutual

def compact : Value → List Char
  | .array items => '[' :: compactItems items ++ [']']
  | .object members => '\x7b' :: compactMembers members ++ ['\x7d']
  | .null => scalarText .null
  | .bool b => scalarText (.bool b)
  | .number n => scalarText (.number n)
  | .string s => scalarText (.string s)

def compactItems : List Value → List Char
  | [] => []
  | [v] => compact v
  | v :: w :: rest => compact v ++ ',' :: compactItems (w :: rest)

def compactMembers : List (String × Value) → List Char
  | [] => []
  | [(k, v)] => literal k ++ ':' :: compact v
  | (k, v) :: m :: rest => literal k ++ ':' :: compact v ++ ',' :: compactMembers (m :: rest)

end

def newLine (depth : Nat) : List Char := '\n' :: List.replicate (2 * depth) ' '

mutual

/-- A value inside `depth` brackets, an entry to a line. -/
def prettyAt (depth : Nat) : Value → List Char
  | .array [] => ['[', ']']
  | .array (v :: rest) => '[' :: prettyItems (depth + 1) (v :: rest) ++ newLine depth ++ [']']
  | .object [] => ['\x7b', '\x7d']
  | .object (m :: rest) =>
    '\x7b' :: prettyMembers (depth + 1) (m :: rest) ++ newLine depth ++ ['\x7d']
  | .null => scalarText .null
  | .bool b => scalarText (.bool b)
  | .number n => scalarText (.number n)
  | .string s => scalarText (.string s)

def prettyItems (depth : Nat) : List Value → List Char
  | [] => []
  | [v] => newLine depth ++ prettyAt depth v
  | v :: w :: rest => newLine depth ++ prettyAt depth v ++ ',' :: prettyItems depth (w :: rest)

def prettyMembers (depth : Nat) : List (String × Value) → List Char
  | [] => []
  | [(k, v)] => newLine depth ++ literal k ++ ':' :: ' ' :: prettyAt depth v
  | (k, v) :: m :: rest =>
    newLine depth ++ literal k ++ ':' :: ' ' :: prettyAt depth v ++
      ',' :: prettyMembers depth (m :: rest)

end

namespace Value

def toCompact (v : Value) : String := String.ofList (compact v)

def toPretty (v : Value) : String := String.ofList (prettyAt 0 v)

end Value

end SchemaSeed.Json
