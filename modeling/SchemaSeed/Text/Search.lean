/-!
# Finding a text in a text
-/

namespace SchemaSeed.Text

def occursIn (fragment : List Char) : List Char → Bool
  | [] => fragment.isEmpty
  | c :: rest => fragment.isPrefixOf (c :: rest) || occursIn fragment rest

/-- How often `fragment` stands in the text; the places must not overlap. `skip` characters
belong to the last place found. -/
def countFrom (fragment : List Char) (skip : Nat) : List Char → Nat
  | [] => 0
  | c :: rest =>
    if skip ≠ 0 then countFrom fragment (skip - 1) rest
    else if fragment.isPrefixOf (c :: rest) then
      countFrom fragment (fragment.length - 1) rest + 1
    else countFrom fragment 0 rest

/-- How often a fragment that is not empty stands in the text. -/
def count (fragment cs : List Char) : Nat := countFrom fragment 0 cs

/-- Whether `fragment` stands somewhere in the string. -/
def contains (s fragment : String) : Bool := occursIn fragment.toList s.toList

end SchemaSeed.Text
