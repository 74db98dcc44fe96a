import SchemaSeed.Text.Utf8

/-!
# Contents

What a file or the body of a request holds: text, or bytes that are not text.
-/

namespace SchemaSeed

inductive Content where
  | text (text : String)
  /-- Bytes that are not UTF-8 as a whole. -/
  | binary (bytes : List UInt8)
  deriving DecidableEq, Repr, Inhabited

namespace Content

def decode? (bytes : List UInt8) : Option String := String.fromUTF8? ⟨bytes.toArray⟩

def ofBytes (bytes : List UInt8) : Content :=
  match decode? bytes with
  | some s => .text s
  | none => .binary bytes

def empty : Content := .text ""

def text? : Content → Option String
  | .text s => some s
  | .binary _ => none

def byteCount : Content → Nat
  | .text s => Text.byteCount s.toList
  | .binary bytes => bytes.length

end Content

end SchemaSeed
