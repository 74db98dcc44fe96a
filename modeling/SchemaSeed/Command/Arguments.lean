import SchemaSeed.Assoc
import SchemaSeed.Text.Split

/-!
# Command lines

The program has two commands, `run` and `serve`, each with options of its own; `--config`
may stand before and after the command. Options take one value, after an equals sign or as
the next argument. A value is checked and stored when the next option comes or the
arguments end, so that an argument that is not understood is reported first.
-/

namespace SchemaSeed.Command

structure RunArguments where
  schema : String
  mockData : String
  databaseUrl : Option String
  ephemeral : Bool
  out : Option String
  deriving DecidableEq, Repr

structure ServeArguments where
  bind : Option String
  adminDatabaseUrl : Option String
  deriving DecidableEq, Repr

inductive Order where
  | run (arguments : RunArguments)
  | serve (arguments : ServeArguments)
  deriving DecidableEq, Repr

structure CommandLine where
  config : Option String
  order : Order
  deriving DecidableEq, Repr

/-- Why a command line is not carried out; help and the version are asked for. -/
inductive ArgumentFault where
  | displayHelp
  | displayVersion
  /-- There are no arguments, which is answered with help. -/
  | noArguments
  | missingSubcommand
  | invalidSubcommand
  | unknownArgument
  | missingRequiredArgument
  | argumentConflict
  | invalidValue
  | tooManyValues
  deriving DecidableEq, Repr

/-- The options that take a value. -/
inductive Parameter where
  | config
  | schema
  | mockData
  | databaseUrl
  | out
  | bind
  | adminDatabaseUrl
  deriving DecidableEq, Repr

namespace Parameter

def name : Parameter → String
  | .config => "config"
  | .schema => "schema"
  | .mockData => "mock-data"
  | .databaseUrl => "database-url"
  | .out => "out"
  | .bind => "bind"
  | .adminDatabaseUrl => "admin-database-url"

/-- Whether the value is a path, which is never empty. -/
def isPath : Parameter → Bool
  | .config | .schema | .mockData | .out => true
  | .databaseUrl | .bind | .adminDatabaseUrl => false

end Parameter

/-- Where an argument stands: before the command, or after it. -/
inductive Level where
  | top
  | run
  | serve
  deriving DecidableEq, Repr

def Level.options : Level → List Parameter
  | .top => [.config]
  | .run => [.config, .schema, .mockData, .databaseUrl, .out]
  | .serve => [.config, .bind, .adminDatabaseUrl]

/-- What the arguments of one level gave so far. -/
structure Matches where
  values : List (Parameter × String)
  ephemeral : Bool
  /-- An option whose value was not stored yet, or has not come yet. -/
  pending : Option (Parameter × Option String)

namespace Matches

def empty : Matches := ⟨[], false, none⟩

def value? (m : Matches) (o : Parameter) : Option String := Assoc.find? m.values o

/-- Stores the value of an option, which must not have one already. -/
def store (m : Matches) (o : Parameter) (value : String) : Except ArgumentFault Matches :=
  if (m.value? o).isSome then .error .argumentConflict
  else if o.isPath ∧ value = "" then .error .invalidValue
  else .ok { m with values := m.values ++ [(o, value)] }

def settle (m : Matches) : Except ArgumentFault Matches :=
  match m.pending with
  | none => .ok m
  | some (_, none) => .error .invalidValue
  | some (o, some value) => { m with pending := none }.store o value

def takeOption (m : Matches) (o : Parameter) (value : Option String) :
    Except ArgumentFault Matches := do
  let m ← m.settle
  match value with
  | some value => m.store o value
  | none => return { m with pending := some (o, none) }

def takeEphemeral (m : Matches) : Except ArgumentFault Matches := do
  let m ← m.settle
  if m.ephemeral then .error .argumentConflict else return { m with ephemeral := true }

/-- A request that is granted as soon as the pending value is found right. -/
def askFor (m : Matches) (what : ArgumentFault) : Except ArgumentFault Matches := do
  let _ ← m.settle
  .error what

def takeLong (level : Level) (m : Matches) (name : String) (value : Option String) :
    Except ArgumentFault Matches :=
  match level.options.find? fun o => o.name == name with
  | some o => m.takeOption o value
  | none =>
    if name = "help" ∨ (name = "version" ∧ level = .top) ∨ (name = "ephemeral" ∧ level = .run)
    then
      if value.isSome then .error .tooManyValues
      else if name = "help" then m.askFor .displayHelp
      else if name = "version" then m.askFor .displayVersion
      else m.takeEphemeral
    else .error .unknownArgument

/-- An argument that starts with one dash; all letters that are known end the reading. -/
def takeShort (level : Level) (m : Matches) (letter : Char) : Except ArgumentFault Matches :=
  if letter = 'h' then m.askFor .displayHelp
  else if letter = 'V' ∧ level = .top then m.askFor .displayVersion
  else .error .unknownArgument

def takePlain (level : Level) (m : Matches) (argument : String) : Except ArgumentFault Matches :=
  match m.pending with
  | some (o, none) => .ok { m with pending := some (o, some argument) }
  | _ => .error (if level = .top then .invalidSubcommand else .unknownArgument)

/-- Any argument, except for commands and the double dash. -/
def take (level : Level) (m : Matches) (argument : String) : Except ArgumentFault Matches :=
  match argument.toList with
  | '-' :: '-' :: rest =>
    match Text.cut? '=' rest with
    | some (name, value) => m.takeLong level (String.ofList name) (some (String.ofList value))
    | none => m.takeLong level (String.ofList rest) none
  | '-' :: letter :: _ => m.takeShort level letter
  | _ => m.takePlain level argument

/-- Whether the next argument is the value of an option. -/
def isWaiting (m : Matches) : Bool :=
  match m.pending with
  | some (_, none) => true
  | _ => false

/-- The arguments after the command. Nothing may follow a double dash. -/
def takeAll (level : Level) (m : Matches) : List String → Except ArgumentFault Matches
  | [] => m.settle
  | argument :: rest =>
    if argument = "--" then
      if rest.isEmpty then m.settle else .error .unknownArgument
    else do takeAll level (← m.take level argument) rest

end Matches

def subcommands : List String := ["run", "serve", "help"]

/-- What `help` is asked about: nothing, or a command. -/
def help : List String → ArgumentFault
  | [] => .displayHelp
  | [name] => if subcommands.contains name then .displayHelp else .invalidSubcommand
  | _ => .invalidSubcommand

def runOrder (m : Matches) : Except ArgumentFault Order :=
  match m.value? .schema, m.value? .mockData with
  | some schema, some mockData =>
    .ok (.run ⟨schema, mockData, m.value? .databaseUrl, m.ephemeral, m.value? .out⟩)
  | _, _ => .error .missingRequiredArgument

def serveOrder (m : Matches) : Except ArgumentFault Order :=
  .ok (.serve ⟨m.value? .bind, m.value? .adminDatabaseUrl⟩)

/-- A command and its arguments, after those in `top`. -/
def withOrder (top : Matches) (level : Level) (order : Matches → Except ArgumentFault Order)
    (arguments : List String) : Except ArgumentFault CommandLine := do
  let m ← Matches.empty.takeAll level arguments
  let order ← order m
  let top ← top.settle
  return ⟨(m.value? .config).or (top.value? .config), order⟩

def withoutOrder (top : Matches) : Except ArgumentFault CommandLine := do
  let top ← top.settle
  .error (if top.values.isEmpty then .noArguments else .missingSubcommand)

/-- The arguments before the command, and the command. -/
def parseFrom (top : Matches) : List String → Except ArgumentFault CommandLine
  | [] => withoutOrder top
  | argument :: rest =>
    if argument = "--" then
      match rest with
      | [] => withoutOrder top
      | next :: _ =>
        .error (if subcommands.contains next then .unknownArgument else .invalidSubcommand)
    else if ¬ top.isWaiting ∧ argument = "run" then withOrder top .run runOrder rest
    else if ¬ top.isWaiting ∧ argument = "serve" then withOrder top .serve serveOrder rest
    else if ¬ top.isWaiting ∧ argument = "help" then .error (help rest)
    else do parseFrom (← top.take .top argument) rest

/-- The command line that the arguments, without the name of the program, make up. -/
def parseArguments (arguments : List String) : Except ArgumentFault CommandLine :=
  parseFrom .empty arguments

end SchemaSeed.Command
