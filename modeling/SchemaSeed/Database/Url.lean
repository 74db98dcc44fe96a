import SchemaSeed.Content
import SchemaSeed.Database.Address
import SchemaSeed.Database.Connect
import SchemaSeed.Text.Hex
import SchemaSeed.Text.Lowercase
import SchemaSeed.Text.Split

/-!
# Connection strings

A connection string is a URL: a scheme, credentials, a host and a port, the name of the
database as the path, and parameters in the query, which win over the rest. Names may be
written with percent signs. A host that is a path is the directory of a local socket.
-/

namespace SchemaSeed.Database.Url

/-- Why a text is no connection string. -/
inductive Fault where
  | noScheme
  | badPort
  | emptyHost
  | badHost
  | badAddress
  | notText
  /-- The value of a parameter. -/
  | parameter (reason : String)
  deriving DecidableEq, Repr

def Fault.text : Fault → String
  | .noScheme => "error with configuration: relative URL without a base"
  | .badPort => "error with configuration: invalid port number"
  | .emptyHost => "error with configuration: empty host"
  | .badHost => "error with configuration: invalid domain character"
  | .badAddress => "error with configuration: invalid IPv6 address"
  | .notText => "error with configuration: invalid utf-8 sequence"
  | .parameter reason => "error with configuration: " ++ reason

/-! ### Percent signs -/

/-- The bytes of a text in which some may be written as a percent sign and two digits. -/
def percentBytes : List Char → List UInt8
  | '%' :: a :: b :: rest =>
    match Text.hexDigit? a, Text.hexDigit? b with
    | some high, some low => (high * 16 + low).toUInt8 :: percentBytes rest
    | _, _ => '%'.toNat.toUInt8 :: percentBytes (a :: b :: rest)
  | c :: rest => (String.singleton c).toUTF8.toList ++ percentBytes rest
  | [] => []

def percentDecode (cs : List Char) : Except Fault String :=
  match Content.decode? (percentBytes cs) with
  | some s => .ok s
  | none => .error .notText

/-- A part of a query: a plus stands for a blank, and bytes that are no text are replaced. -/
def queryDecode (cs : List Char) : String :=
  let bytes := percentBytes (cs.map fun c => if c = '+' then ' ' else c)
  (Content.decode? bytes).getD
    (String.ofList (bytes.map fun b => if b < 128 then Char.ofNat b.toNat else '\uFFFD'))

/-! ### The parts of a URL -/

structure Parts where
  user : List Char
  password : Option (List Char)
  host : List Char
  port : Option Nat
  path : List Char
  query : List Char

/-- Drops what does not count: blanks and controls at both ends, tabs and line ends
anywhere. -/
def clean (cs : List Char) : List Char :=
  let isOuter (c : Char) : Bool := c.toNat ≤ 32
  let inner := ((cs.dropWhile isOuter).reverse.dropWhile isOuter).reverse
  inner.filter fun c => c != '\t' && c != '\n' && c != '\r'

def isSchemeChar (c : Char) : Bool := c.isAlphanum || c = '+' || c = '-' || c = '.'

def afterScheme (cs : List Char) : Option (List Char) :=
  match cs, cs.dropWhile isSchemeChar with
  | c :: _, ':' :: rest => if c.isAlpha then some rest else none
  | _, _ => none

def isEnd (c : Char) : Bool := c = '/' || c = '?' || c = '#'

/-- The host and what follows it, up to the end of the authority. Colons between brackets
belong to the host. -/
def cutHost (cs : List Char) : List Char × List Char :=
  match cs with
  | '[' :: _ =>
    let inside := cs.takeWhile (· != ']')
    let outside := (cs.drop (inside.length + 1)).takeWhile (· != ':')
    let host := cs.take (inside.length + 1 + outside.length)
    (host, cs.drop host.length)
  | _ => (cs.takeWhile (· != ':'), cs.dropWhile (· != ':'))

def isHostChar (c : Char) : Bool := !"\x00\t\n\r #/:<>?@[\\]^|".toList.contains c

/-- In brackets there must be an address of eight groups. -/
def checkHost (host : List Char) : Except Fault Unit :=
  match host with
  | '[' :: rest =>
    if rest.getLast? = some ']' ∧ Address.isGrouped rest.dropLast then .ok ()
    else .error .badAddress
  | _ => if host.all isHostChar then .ok () else .error .badHost
def portOf : List Char → Except Fault (Option Nat)
  | [] => .ok none
  | cs =>
    let n := cs.foldl (fun n c => n * 10 + (c.toNat - 48)) 0
    if cs.all (·.isDigit) ∧ n < 65536 then .ok (some n) else .error .badPort

def credentials (cs : List Char) : List Char × Option (List Char) :=
  match Text.cut? ':' cs with
  | some (user, password) => (user, if password.isEmpty then none else some password)
  | none => (cs, none)

def withPath (p : Parts) (cs : List Char) : Parts :=
  let cs := cs.takeWhile (· != '#')
  { p with path := cs.takeWhile (· != '?'), query := (cs.dropWhile (· != '?')).drop 1 }

def authority (cs : List Char) : Except Fault Parts := do
  let inside := cs.takeWhile fun c => !isEnd c
  let rest := cs.dropWhile fun c => !isEnd c
  let (before, place) :=
    match Text.cutLast? '@' inside with
    | some (before, place) => (some before, place)
    | none => (none, inside)
  let (user, password) := credentials (before.getD [])
  let (host, tail) := cutHost place
  checkHost host
  if host.isEmpty then
    if tail.head? = some ':' then throw .emptyHost
    if !user.isEmpty || password.isSome then throw .emptyHost
    if before = some [] && !rest.isEmpty then throw .emptyHost
  return withPath ⟨user, password, host, ← portOf (tail.drop 1), [], []⟩ rest

def parts (url : String) : Except Fault Parts :=
  let cs := clean url.toList
  match afterScheme cs with
  | none => .error .noScheme
  | some ('/' :: '/' :: rest) => authority rest
  | some rest => .ok (withPath ⟨[], none, [], none, [], []⟩ rest)

/-! ### Paths -/

/-- A segment that stands for the place it is in, or for the one above. -/
def isDot (segment : List Char) : Bool :=
  [".", "%2e"].contains (String.ofList (Text.lowercase segment))

def isDoubleDot (segment : List Char) : Bool :=
  ["..", ".%2e", "%2e.", "%2e%2e"].contains (String.ofList (Text.lowercase segment))

/-- The segments of a path without its dots; `done` holds those before, the last one
first. -/
def segmentsFrom (done : List (List Char)) : List (List Char) → List (List Char)
  | [] => done.reverse
  | segment :: rest =>
    let after := if rest.isEmpty then [[]] else []
    if isDoubleDot segment then segmentsFrom (after ++ done.drop 1) rest
    else if isDot segment then segmentsFrom (after ++ done) rest
    else segmentsFrom (segment :: done) rest

/-- The path that a path with dots stands for, without the slashes in front. -/
def cleanPath (path : List Char) : List Char :=
  match path with
  | '/' :: rest =>
    (['/'].intercalate (segmentsFrom [] (Text.split '/' rest))).dropWhile (· == '/')
  | _ => path

/-! ### Parameters -/

def pairs (query : List Char) : List (String × String) :=
  ((Text.split '&' query).filter fun p => !p.isEmpty).map fun p =>
    match Text.cut? '=' p with
    | some (key, value) => (queryDecode key, queryDecode value)
    | none => (queryDecode p, "")

/-- A number below `bound`, perhaps with a plus in front. -/
def numberFrom (bound n : Nat) : List Char → Except Fault Nat
  | [] => .ok n
  | c :: rest =>
    if !c.isDigit then .error (.parameter "invalid digit found in string")
    else
      let n := n * 10 + (c.toNat - 48)
      if n < bound then numberFrom bound n rest
      else .error (.parameter "number too large to fit in target type")

def number (bound : Nat) (value : String) : Except Fault Nat :=
  match value.toList with
  | [] => .error (.parameter "cannot parse integer from empty string")
  | ['+'] => .error (.parameter "invalid digit found in string")
  | '+' :: cs => numberFrom bound 0 cs
  | cs => numberFrom bound 0 cs

def sslModes : List String := ["disable", "allow", "prefer", "require", "verify-ca", "verify-full"]

/-- A host by its name, or by the directory of its socket. -/
def hostOf (host : String) : Host :=
  if host.toList.head? = some '/' then .directory host else .name host

def applyPair (c : Connect) : String × String → Except Fault Connect
  | ("host", value) => .ok { c with host := hostOf value }
  | ("hostaddr", value) =>
    if Address.isAddress value then .ok { c with host := .name value }
    else .error (.parameter "invalid IP address syntax")
  | ("port", value) => do return { c with port := ← number 65536 value }
  | ("dbname", value) => .ok { c with database := some value }
  | ("user", value) => .ok { c with user := some value }
  | ("password", value) => .ok { c with password := some value }
  | ("statement-cache-capacity", value) => do
    let _ ← number UInt64.size value
    return c
  | ("sslmode", value) | ("ssl-mode", value) =>
    if sslModes.contains value.toLower then .ok c
    else .error (.parameter ("error with configuration: unknown value \"" ++ value ++
      "\" for `ssl_mode`"))
  | _ => .ok c

/-! ### Connections -/

/-- A text without its percent signs, if it is not empty. -/
def decodedIfAny (cs : List Char) : Except Fault (Option String) :=
  if cs.isEmpty then .ok none else some <$> percentDecode cs

/-- The host of a URL. Only a path is written with percent signs. -/
def hostOfUrl (host : List Char) : Except Fault Host :=
  if host.isEmpty then .ok Connect.standard.host
  else if (percentBytes host).head? = some '/'.toNat.toUInt8 then
    Host.directory <$> percentDecode host
  else .ok (.name (String.ofList host))

def parse (url : String) : Except Fault Connect := do
  let p ← parts url
  let host ← hostOfUrl p.host
  let user ← decodedIfAny p.user
  let password ← (p.password.mapM percentDecode : Except Fault (Option String))
  let database ← decodedIfAny (cleanPath p.path)
  let port := p.port.getD Connect.standard.port
  (pairs p.query).foldlM applyPair ⟨host, port, user, password, database⟩

end SchemaSeed.Database.Url
