import SchemaSeed.Text.Ranges
import SchemaSeed.Text.Table.Case
import SchemaSeed.Text.Table.Lowercase

/-!
# Lowercase text

The full Unicode lowercase mapping. It works character by character with two
exceptions: the dotted capital I becomes two characters, and a capital sigma that ends a
word becomes a final sigma.
-/

namespace SchemaSeed.Text

/-- The lowercase form of one character, out of context. -/
def lowerChar (c : Char) : List Char :=
  if c.toNat < 128 then [c.toLower]
  else if c.toNat = 0x130 then ['i', '\u0307']
  else
    match Table.lowercaseRuns.find? fun run =>
        run.first ≤ c.toNat && c.toNat ≤ run.last && (c.toNat - run.first) % run.step == 0 with
    | some run => [Char.ofNat (c.toNat + run.offset).toNat]
    | none => [c]

/-- Whether the first character that casing does not ignore is cased. -/
def meetsCased (cs : List Char) : Bool :=
  match cs.dropWhile Table.caseIgnorable.contains with
  | c :: _ => Table.cased.contains c
  | [] => false

/-- Lowercases `cs`, which stands after the reversed text `before`. -/
def lowercaseAfter (before : List Char) : List Char → List Char
  | [] => []
  | c :: rest =>
    let lower :=
      if c = 'Σ' then [if meetsCased before && !meetsCased rest then 'ς' else 'σ']
      else lowerChar c
    lower ++ lowercaseAfter (c :: before) rest

def lowercase (cs : List Char) : List Char := lowercaseAfter [] cs

def toLowercase (s : String) : String := String.ofList (lowercase s.toList)

end SchemaSeed.Text
