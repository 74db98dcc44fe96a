import SchemaSeed.Text.Table.Alphabetic

/-!
# Word characters

The characters of names: letters, marks, decimal digits, connectors such as the
underscore, and the two joiners.
-/

namespace SchemaSeed.Text

def isWord (c : Char) : Bool :=
  if c.toNat < 128 then c.isAlphanum || c == '_'
  else Table.alphabetic.contains c || Table.decimalDigit.contains c || Table.wordExtra.contains c

def isAlphanumeric (c : Char) : Bool :=
  if c.toNat < 128 then c.isAlphanum
  else Table.alphabetic.contains c || Table.decimalDigit.contains c || Table.otherNumber.contains c

end SchemaSeed.Text
