import SchemaSeed.Text.Ranges
import SchemaSeed.Text.Table.Hidden

/-!
# Quoted display

A text inside double quotes, for messages and logs. Quotes, backslashes and the common
controls have short escapes; any other character that would not show is written by its
code point.
-/

namespace SchemaSeed.Text

def quotedChar (c : Char) : List Char :=
  match c with
  | '"' => ['\\', '"']
  | '\\' => ['\\', '\\']
  | '\n' => ['\\', 'n']
  | '\r' => ['\\', 'r']
  | '\t' => ['\\', 't']
  | '\x00' => ['\\', '0']
  | c =>
    if Table.hidden.contains c then
      ['\\', 'u', '\x7b'] ++ Nat.toDigits 16 c.toNat ++ ['\x7d']
    else [c]

def quoted (s : String) : String :=
  String.ofList ('"' :: s.toList.flatMap quotedChar ++ ['"'])

/-- The display of a list of texts, such as `["users", "orders"]`. -/
def quotedList (items : List String) : String :=
  "[" ++ ", ".intercalate (items.map quoted) ++ "]"

end SchemaSeed.Text
