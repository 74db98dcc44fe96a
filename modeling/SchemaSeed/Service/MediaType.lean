/-!
# Media types

The value of a content type header: a type, a subtype that may end in a suffix after a
plus, and parameters, which are checked and dropped. Types are compared without regard to
case.
-/

namespace SchemaSeed.Service

structure MediaType where
  main : String
  subtype : String
  suffix : Option String
  deriving DecidableEq, Repr

namespace MediaType

def isToken (c : Char) : Bool :=
  c.isAlphanum || "!#$%&'+-.^_`|~".toList.contains c

def isQuotable (c : Char) : Bool := 32 ≤ c.toNat && c.toNat ≠ 127

/-- A part of a list of parameters that is being read. -/
inductive Place where
  /-- Before a name; blanks are passed over. -/
  | start
  | name
  /-- After the equals sign. -/
  | value
  | unquoted
  /-- Inside quotes; the value must not be empty. -/
  | quoted (empty : Bool)
  | closed

/-- Whether a list of parameters, each after a semicolon, is well formed. -/
def parametersFrom : Place → List Char → Bool
  | .start, [] | .value, [] | .unquoted, [] | .closed, [] => true
  | .name, [] | .quoted _, [] => false
  | .start, c :: rest =>
    if c = ' ' then parametersFrom .start rest
    else isToken c && parametersFrom .name rest
  | .name, c :: rest =>
    if c = '=' then parametersFrom .value rest
    else isToken c && parametersFrom .name rest
  | .value, c :: rest =>
    if c = '"' then parametersFrom (.quoted true) rest
    else isToken c && parametersFrom .unquoted rest
  | .unquoted, c :: rest =>
    if c = ';' then parametersFrom .start rest
    else isToken c && parametersFrom .unquoted rest
  | .quoted empty, c :: rest =>
    if c = '"' && !empty then parametersFrom .closed rest
    else isQuotable c && parametersFrom (.quoted false) rest
  | .closed, c :: rest =>
    if c = ';' then parametersFrom .start rest
    else c = ' ' && parametersFrom .closed rest

def normal (name : List Char) : String := (String.ofList name).toLower

def ofSubtype (main subtype : List Char) : MediaType :=
  let suffix := (subtype.reverse.takeWhile (· != '+')).reverse
  let before := subtype.take (subtype.length - suffix.length - 1)
  if before.isEmpty then ⟨normal main, normal subtype, none⟩
  else ⟨normal main, normal before, some (normal suffix)⟩

def parse (value : String) : Option MediaType :=
  let cs := value.toList
  let main := cs.takeWhile isToken
  match cs.dropWhile isToken with
  | '/' :: rest =>
    let subtype := rest.takeWhile isToken
    let isParameterList :=
      match rest.dropWhile isToken with
      | [] => true
      | ';' :: parameters => parametersFrom .start parameters
      | _ => false
    -- A header value is visible ASCII text.
    if main.isEmpty || !isParameterList || !cs.all (·.toNat < 127) then none
    else if subtype.isEmpty && rest.head? = some ';' then none
    else some (ofSubtype main subtype)
  | _ => none

def isJson (m : MediaType) : Bool :=
  m.main = "application" && (m.subtype = "json" || m.suffix = some "json")

end MediaType

end SchemaSeed.Service
