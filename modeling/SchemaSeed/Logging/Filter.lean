import SchemaSeed.Logging.Pattern
import SchemaSeed.Text.Blank
import SchemaSeed.Text.Split

/-!
# Log filters

A filter is a list of directives with commas between them. A directive names a level, a
target, or a span with fields in brackets, and may end in an equals sign and a level. Only
whether a filter is well formed matters here.

Blanks around a directive do not count while its parts are found, but the parts are cut out
of the text with its blanks, so that a blank in front shifts them.
-/

namespace SchemaSeed.Logging

def levelNames : List String := ["error", "warn", "info", "debug", "trace", "off"]

def isLevelNumber (cs : List Char) : Bool :=
  let ds := match cs with
    | '+' :: rest => rest
    | cs => cs
  !ds.isEmpty && ds.all (·.isDigit) && ds.foldl (fun n d => n * 10 + (d.toNat - 48)) 0 ≤ 5

def isLevel (cs : List Char) : Bool :=
  cs.isEmpty || isLevelNumber cs || levelNames.contains (String.ofList cs).toLower

def isNumber (cs : List Char) : Bool :=
  let ds := match cs with
    | '+' :: rest | '-' :: rest => rest
    | cs => cs
  !ds.isEmpty && ds.all (·.isDigit)

/-- A field, perhaps with an equals sign and a pattern for its value. -/
def isField (cs : List Char) : Bool :=
  match Text.split '=' cs with
  | _ :: value :: _ => isNumber value || Pattern.wellFormed value
  | _ => !cs.isEmpty

/-- Where in a directive its reader is. Places in the text are counted in characters. -/
inductive Place where
  | start
  | levelOrTarget
  | span
  | field (begin : Nat)
  | fields
  | target
  | level (begin : Nat)

/-- The next place after the character `c`, the `i`-th of the directive. -/
def Place.next (text : List Char) (i : Nat) (c : Char) : Place → Option Place
  | .start =>
    if c = '[' then some .span
    else if c = '-' ∨ c = ':' ∨ c = '_' ∨ Text.isAlphanumeric c then some .levelOrTarget
    else none
  | .levelOrTarget =>
    if c = '=' then some (.level (i + 1))
    else if c = '[' then some .span
    else some .levelOrTarget
  | .span =>
    if c = ']' then some .target
    else if c = '\x7b' then some (.field (i + 1))
    else some .span
  | .field begin =>
    if c = '\x7d' then
      if isField ((text.take i).drop begin) then some .fields else none
    else some (.field begin)
  | .fields => if c = ']' then some .target else none
  | .target => if c = '=' then some (.level (i + 1)) else none
  | .level begin => some (.level begin)

def directiveFrom (text : List Char) (i : Nat) : Place → List Char → Option Place
  | place, [] => some place
  | place, c :: rest => do directiveFrom text (i + 1) (← place.next text i c) rest

def isDirective (text : List Char) : Bool :=
  match directiveFrom text 0 .start (Text.trim text) with
  | some .levelOrTarget | some .target => true
  | some (.level begin) => isLevel (text.drop begin)
  | _ => false

/-- Whether a text is a filter; nothing needs to stand between its commas. -/
def isFilter (text : String) : Bool :=
  ((Text.split ',' text.toList).filter fun d => !d.isEmpty).all isDirective

end SchemaSeed.Logging
