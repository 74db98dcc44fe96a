import SchemaSeed.Text.Hex
import SchemaSeed.Text.Word

/-!
# Patterns

Whether a text is a well-formed pattern for the values of a field. Patterns are made of
characters, classes and groups, which may be repeated, and of alternatives. Word boundaries
are refused, as the matcher has no memory of the character before.
-/

namespace SchemaSeed.Logging.Pattern

inductive Before where
  /-- Nothing that could be repeated. -/
  | nothing
  | something
  /-- A repetition, which may be marked as lazy. -/
  | repetition
  deriving DecidableEq

def number (cs : List Char) : Option (Nat × List Char) :=
  let ds := cs.takeWhile (·.isDigit)
  if ds.isEmpty then none
  else some (ds.foldl (fun n d => n * 10 + (d.toNat - 48)) 0, cs.drop ds.length)

/-- The rest of a counted repetition, after its brace. -/
def counts (cs : List Char) : Option (List Char) := do
  let (low, rest) ← number cs
  match rest with
  | '\x7d' :: rest => some rest
  | ',' :: '\x7d' :: rest => some rest
  | ',' :: rest =>
    match ← number rest with
    | (high, '\x7d' :: rest) => if low ≤ high then some rest else none
    | _ => none
  | _ => none

def isHexDigit (c : Char) : Bool := (Text.hexDigit? c).isSome

/-- A character given by hexadecimal digits: `count` of them, or any number in braces. -/
def hexCode (count : Nat) : List Char → Option (List Char)
  | '\x7b' :: rest =>
    let ds := rest.takeWhile isHexDigit
    match rest.drop ds.length with
    | '\x7d' :: rest => if ds.isEmpty then none else some rest
    | _ => none
  | cs =>
    let ds := cs.take count
    if ds.length = count ∧ ds.all isHexDigit then some (cs.drop count) else none

/-- The class of a property, given by a letter or by a name in braces. -/
def property : List Char → Option (List Char)
  | '\x7b' :: rest =>
    let name := rest.takeWhile (· != '\x7d')
    if name.isEmpty then none else some (rest.drop (name.length + 1))
  | c :: rest => if c.isAlpha then some rest else none
  | [] => none

def escape : List Char → Option (List Char)
  | c :: rest =>
    if "dDsSwWAztnrfva".toList.contains c then some rest
    else if c = 'x' then hexCode 2 rest
    else if c = 'u' then hexCode 4 rest
    else if c = 'U' then hexCode 8 rest
    else if c = 'p' ∨ c = 'P' then property rest
    else if c.toNat < 128 ∧ ¬ c.isAlphanum ∧ c ≠ '<' ∧ c ≠ '>' ∧ 32 ≤ c.toNat then some rest
    else none
  | [] => none

/-- The rest of a class in brackets, `depth` brackets deep; `first` holds where a closing
bracket stands for itself. -/
def bracket : (fuel : Nat) → (depth : Nat) → (first : Bool) → List Char → Option (List Char)
  | 0, _, _, _ => none
  | fuel + 1, depth, first, cs =>
    match cs with
    | [] => none
    | ']' :: rest =>
      if first then bracket fuel depth false rest
      else if depth ≤ 1 then some rest
      else bracket fuel (depth - 1) false rest
    | '[' :: '^' :: rest => bracket fuel (depth + 1) true rest
    | '[' :: rest => bracket fuel (depth + 1) true rest
    | '\\' :: rest => do bracket fuel depth false (← escape rest)
    | a :: '-' :: b :: rest =>
      if b = ']' ∨ b = '[' ∨ b = '\\' then bracket fuel depth false ('-' :: b :: rest)
      else if a ≤ b then bracket fuel depth false rest
      else none
    | _ :: rest => bracket fuel depth false rest

/-- What follows the opening of a group, up to its contents. Flags alone are no group. -/
def groupStart : List Char → Option (Bool × List Char)
  | '?' :: 'P' :: '<' :: rest | '?' :: '<' :: rest =>
    let name := rest.takeWhile fun c => Text.isWord c
    match name, rest.drop name.length with
    | c :: _, '>' :: rest => if c.isDigit then none else some (true, rest)
    | _, _ => none
  | '?' :: rest =>
    let flags := rest.takeWhile fun c => "imsUuxR-".toList.contains c
    match rest.drop flags.length with
    | ':' :: rest => some (true, rest)
    | ')' :: rest => if flags.isEmpty then none else some (false, rest)
    | _ => none
  | cs => some (true, cs)

/-- The rest of a pattern inside `groups` open groups. -/
def wellFormedFrom : (fuel : Nat) → (groups : Nat) → Before → List Char → Bool
  | 0, _, _, _ => false
  | fuel + 1, groups, before, cs =>
    match cs with
    | [] => groups = 0
    | '(' :: rest =>
      match groupStart rest with
      | some (true, rest) => wellFormedFrom fuel (groups + 1) .nothing rest
      | some (false, rest) => wellFormedFrom fuel groups .nothing rest
      | none => false
    | ')' :: rest => groups ≠ 0 && wellFormedFrom fuel (groups - 1) .something rest
    | '|' :: rest => wellFormedFrom fuel groups .nothing rest
    | '[' :: '^' :: rest | '[' :: rest =>
      match bracket (rest.length + 1) 1 true rest with
      | some rest => wellFormedFrom fuel groups .something rest
      | none => false
    | '\\' :: rest =>
      match escape rest with
      | some rest => wellFormedFrom fuel groups .something rest
      | none => false
    | '\x7b' :: rest =>
      match counts rest with
      | some rest => before ≠ .nothing && wellFormedFrom fuel groups .repetition rest
      | none => false
    | c :: rest =>
      if c = '*' ∨ c = '+' then before ≠ .nothing && wellFormedFrom fuel groups .repetition rest
      else if c = '?' then
        before ≠ .nothing && wellFormedFrom fuel groups
          (if before = .repetition then .something else .repetition) rest
      else wellFormedFrom fuel groups .something rest

def wellFormed (pattern : List Char) : Bool :=
  wellFormedFrom (pattern.length + 1) 0 .nothing pattern

end SchemaSeed.Logging.Pattern
