import SchemaSeed.Json.Mismatch
import SchemaSeed.Text.Utf8

/-!
# Why a text is not read, and where

A fault is a cause and the number of bytes that were left when it arose. Its message
turns that number into a line and a column; columns count bytes.
-/

namespace SchemaSeed.Json

inductive Cause where
  | endInValue
  | endInString
  | endInList
  | endInObject
  | expectedValue
  | expectedIdent
  | expectedColon
  | expectedListEnd
  | expectedObjectEnd
  | keyNotString
  | trailingComma
  | trailingCharacters
  | invalidNumber
  | numberOutOfRange
  | invalidEscape
  | loneSurrogate
  | endOfEscape
  | controlCharacter
  | tooDeep
  | mismatch (mismatch : Mismatch)
  /-- A text inside the text is not read; the message tells why, and where in it. -/
  | embedded (message : String)
  deriving Repr

def Cause.text : Cause → String
  | .endInValue => "EOF while parsing a value"
  | .endInString => "EOF while parsing a string"
  | .endInList => "EOF while parsing a list"
  | .endInObject => "EOF while parsing an object"
  | .expectedValue => "expected value"
  | .expectedIdent => "expected ident"
  | .expectedColon => "expected `:`"
  | .expectedListEnd => "expected `,` or `]`"
  | .expectedObjectEnd => "expected `,` or `\x7d`"
  | .keyNotString => "key must be a string"
  | .trailingComma => "trailing comma"
  | .trailingCharacters => "trailing characters"
  | .invalidNumber => "invalid number"
  | .numberOutOfRange => "number out of range"
  | .invalidEscape => "invalid escape"
  | .loneSurrogate => "lone leading surrogate in hex escape"
  | .endOfEscape => "unexpected end of hex escape"
  | .controlCharacter => "control character (\\u0000-\\u001F) found while parsing a string"
  | .tooDeep => "recursion limit exceeded"
  | .mismatch m => m.text
  | .embedded message => message

/-- A cause, and how many bytes of the text come after the place. -/
structure Fault where
  cause : Cause
  left : Nat
  deriving Repr

def Fault.before (cause : Cause) (rest : List Char) : Fault :=
  ⟨cause, Text.byteCount rest⟩

/-- A fault seen at the first byte of `rest`, which counts as read; at the end of the text
there is none to count. -/
def Fault.ahead (cause : Cause) (rest : List Char) : Fault :=
  ⟨cause, Text.byteCount rest - 1⟩

/-- A line, from 1, and the bytes of it that were read. -/
structure Position where
  line : Nat
  column : Nat
  deriving DecidableEq, Repr

def Position.advance : Position → Nat → List Char → Position
  | p, _, [] => p
  | p, bytes, c :: rest =>
    if bytes = 0 then p
    else if c = '\n' then advance ⟨p.line + 1, 0⟩ (bytes - 1) rest
    else advance ⟨p.line, p.column + min bytes c.utf8Size⟩ (bytes - c.utf8Size) rest

def Fault.position (source : List Char) (f : Fault) : Position :=
  Position.advance ⟨1, 0⟩ (Text.byteCount source - f.left) source

/-- The cause, followed by its place in `source`. A fault in an embedded text keeps the place
that it has in that text. -/
def Fault.message (source : List Char) (f : Fault) : String :=
  match f.cause with
  | .embedded message => message
  | cause =>
    let p := f.position source
    cause.text ++ " at line " ++ toString p.line ++ " column " ++ toString p.column

end SchemaSeed.Json
