import SchemaSeed.Text.Hex

/-!
# The lexical parts of configuration documents

A scanner takes something from the front of a text and hands on the rest, or refuses. Here
are blanks, line ends, comments, strings and keys.
-/

namespace SchemaSeed.Toml

abbrev Scan (α : Type) := List Char → Option (α × List Char)

/-- A character that a comment or a literal string may hold: no control other than the
tab. -/
def isPrintable (c : Char) : Bool := c = '\t' || (0x20 ≤ c.toNat && c.toNat ≠ 0x7F)

/-! ### Between values -/

def isBlank (c : Char) : Bool := c = ' ' || c = '\t'

def skipBlanks (cs : List Char) : List Char := cs.dropWhile isBlank

def newline? : List Char → Option (List Char)
  | '\n' :: rest => some rest
  | '\r' :: '\n' :: rest => some rest
  | _ => none

def skipComment : List Char → List Char
  | '#' :: rest => rest.dropWhile isPrintable
  | cs => cs

/-- What may follow a value or a header on its line; the line may be the last one. -/
def endLine (cs : List Char) : Option (List Char) :=
  match skipComment (skipBlanks cs) with
  | [] => some []
  | cs => newline? cs

def skipLines : (fuel : Nat) → List Char → List Char
  | 0, cs => cs
  | fuel + 1, cs =>
    match skipComment (skipBlanks cs) with
    | [] => []
    | cs =>
      match newline? cs with
      | some rest => skipLines fuel rest
      | none => cs

def skipSpace (cs : List Char) : List Char := skipLines cs.length cs

/-! ### Strings -/

def codePoint (count : Nat) (cs : List Char) : Option (Char × List Char) := do
  let digits ← (cs.take count).mapM Text.hexDigit?
  let n := digits.foldl (fun n d => n * 16 + d) 0
  if digits.length = count ∧ n.isValidChar then some (Char.ofNat n, cs.drop count) else none

/-- What follows a backslash, except for the end of a line. -/
def escape : Scan Char
  | 'b' :: rest => some ('\x08', rest)
  | 'f' :: rest => some ('\x0c', rest)
  | 'n' :: rest => some ('\n', rest)
  | 'r' :: rest => some ('\r', rest)
  | 't' :: rest => some ('\t', rest)
  | '"' :: rest => some ('"', rest)
  | '\\' :: rest => some ('\\', rest)
  | 'u' :: rest => codePoint 4 rest
  | 'U' :: rest => codePoint 8 rest
  | _ => none

def basicFrom : (fuel : Nat) → (done : List Char) → Scan String
  | 0, _, _ => none
  | fuel + 1, done, cs =>
    match cs with
    | '"' :: rest => some (String.ofList done.reverse, rest)
    | '\\' :: rest => do
      let (c, rest) ← escape rest
      basicFrom fuel (c :: done) rest
    | c :: rest => if isPrintable c then basicFrom fuel (c :: done) rest else none
    | [] => none

def literalFrom (cs : List Char) : Option (String × List Char) :=
  let text := cs.takeWhile fun c => isPrintable c && c != '\''
  match cs.drop text.length with
  | '\'' :: rest => some (String.ofList text, rest)
  | _ => none

/-- A string over several lines may begin with a line end that does not count. -/
def dropFirstNewline (cs : List Char) : List Char := (newline? cs).getD cs

def skipWhite : List Char → List Char
  | '\r' :: '\n' :: rest => skipWhite rest
  | c :: rest => if isBlank c || c = '\n' then skipWhite rest else c :: rest
  | [] => []

/-- Three quotes or more end a string over several lines; up to two of them, before the last
three, still belong to it. -/
def closing? (quote : Char) (cs : List Char) : Option (List Char × List Char) :=
  let run := (cs.takeWhile (· == quote)).length
  if 3 ≤ run then some (List.replicate (min run 5 - 3) quote, cs.drop (min run 5)) else none

/-- The rest of a string over several lines. Escapes count when the quote is double. -/
def linesFrom (quote : Char) : (fuel : Nat) → (done : List Char) → Scan String
  | 0, _, _ => none
  | fuel + 1, done, cs =>
    match closing? quote cs with
    | some (quotes, rest) => some (String.ofList (done.reverse ++ quotes), rest)
    | none =>
      match newline? cs with
      | some rest => linesFrom quote fuel ('\n' :: done) rest
      | none =>
        match cs with
        | [] => none
        | c :: rest =>
          if c = '\\' ∧ quote = '"' then
            if (newline? (skipBlanks rest)).isSome then
              linesFrom quote fuel done (skipWhite rest)
            else do
              let (c, rest) ← escape rest
              linesFrom quote fuel (c :: done) rest
          else if isPrintable c then linesFrom quote fuel (c :: done) rest
          else none

def string : Scan String
  | '"' :: '"' :: '"' :: rest => linesFrom '"' (rest.length + 1) [] (dropFirstNewline rest)
  | '\'' :: '\'' :: '\'' :: rest =>
    linesFrom '\'' (rest.length + 1) [] (dropFirstNewline rest)
  | '"' :: rest => basicFrom (rest.length + 1) [] rest
  | '\'' :: rest => literalFrom rest
  | _ => none

/-! ### Keys -/

def isBare (c : Char) : Bool := c.isAlphanum || c = '_' || c = '-'

def name : Scan String
  | '"' :: rest => basicFrom (rest.length + 1) [] rest
  | '\'' :: rest => literalFrom rest
  | cs =>
    let text := cs.takeWhile isBare
    if text.isEmpty then none else some (String.ofList text, cs.drop text.length)

/-- The names of a key with dots between them, and blanks around them. -/
def namesFrom : (fuel : Nat) → Scan (List String)
  | 0, _ => none
  | fuel + 1, cs => do
    let (first, rest) ← name (skipBlanks cs)
    match skipBlanks rest with
    | '.' :: rest =>
      let (others, rest) ← namesFrom fuel rest
      return (first :: others, rest)
    | rest => return ([first], rest)

def depthLimit : Nat := 80

/-- A key: the names before the last one, and the last one. -/
def key (cs : List Char) : Option ((List String × String) × List Char) := do
  let (names, rest) ← namesFrom (cs.length + 1) cs
  let last ← names.getLast?
  if names.length < depthLimit then some ((names.dropLast, last), rest) else none

end SchemaSeed.Toml
