import SchemaSeed.Database.Connect
import SchemaSeed.Files.Tree
import SchemaSeed.Toml.Decode

/-!
# Settings

Settings come from a file, and each of them has a default. The connection of the
administrator may come from the environment instead.
-/

namespace SchemaSeed

inductive LogFormat where
  | json
  | pretty
  deriving DecidableEq, Repr

namespace LogFormat

def name : LogFormat → String
  | .json => "json"
  | .pretty => "pretty"

def all : List LogFormat := [.json, .pretty]

def table : List (String × LogFormat) := all.map fun f => (f.name, f)

end LogFormat

structure ServerSettings where
  /-- The address to listen on. -/
  bind : String
  requestTimeoutSecs : UInt64
  deriving DecidableEq, Repr

structure DatabaseSettings where
  /-- The connection over which databases are created and dropped. -/
  adminUrl : Option String
  maxConnections : UInt32
  acquireTimeoutSecs : UInt64
  readyTimeoutSecs : UInt64
  deriving DecidableEq, Repr

structure LoggingSettings where
  format : LogFormat
  /-- The filter when the environment has none. -/
  level : String
  file : Option String
  deriving DecidableEq, Repr

structure Settings where
  server : ServerSettings
  database : DatabaseSettings
  logging : LoggingSettings
  deriving DecidableEq, Repr

abbrev Environment := List (String × String)

namespace Settings

open Toml (Item)
open Toml.Decode (FieldReader)

def defaults : Settings where
  server := ⟨"0.0.0.0:8080", 120⟩
  database := ⟨none, 5, 10, 30⟩
  logging := ⟨.json, "info", none⟩

def options (s : Settings) : Database.Options :=
  ⟨s.database.maxConnections.toNat, s.database.acquireTimeoutSecs.toNat,
    s.database.readyTimeoutSecs.toNat⟩

def requestTimeout (s : Settings) : Nat := s.server.requestTimeoutSecs.toNat

/-! ### Reading a file -/

def number (item : Item) : Option UInt64 := (Toml.Decode.natural UInt64.size item).map .ofNat

def serverFields : List (FieldReader ServerSettings) := [
  ⟨"bind", fun s item => do return { s with bind := ← Toml.Decode.string item }⟩,
  ⟨"request_timeout_secs", fun s item => do
    return { s with requestTimeoutSecs := ← number item }⟩]

def databaseFields : List (FieldReader DatabaseSettings) := [
  ⟨"admin_url", fun s item => do return { s with adminUrl := ← Toml.Decode.string item }⟩,
  ⟨"max_connections", fun s item => do
    return { s with maxConnections := .ofNat (← Toml.Decode.natural UInt32.size item) }⟩,
  ⟨"acquire_timeout_secs", fun s item => do
    return { s with acquireTimeoutSecs := ← number item }⟩,
  ⟨"ready_timeout_secs", fun s item => do
    return { s with readyTimeoutSecs := ← number item }⟩]

def loggingFields : List (FieldReader LoggingSettings) := [
  ⟨"format", fun s item => do
    return { s with format := ← Toml.Decode.word LogFormat.table item }⟩,
  ⟨"level", fun s item => do return { s with level := ← Toml.Decode.string item }⟩,
  ⟨"file", fun s item => do return { s with file := ← Toml.Decode.string item }⟩]

def fields : List (FieldReader Settings) := [
  ⟨"server", fun s item => do
    return { s with server := ← Toml.Decode.record serverFields defaults.server item }⟩,
  ⟨"database", fun s item => do
    return { s with database := ← Toml.Decode.record databaseFields defaults.database item }⟩,
  ⟨"logging", fun s item => do
    return { s with logging := ← Toml.Decode.record loggingFields defaults.logging item }⟩]

def parse (source : String) : Option Settings := do
  Toml.Decode.record fields defaults (← Toml.parse source).toItem

/-! ### Loading -/

inductive Fault where
  | io (path : String) (fault : Files.Fault)
  /-- The file is no document, or not one of settings. -/
  | toml (path : String)
  deriving DecidableEq, Repr

def Fault.text : Fault → String
  | .io path fault => "io error reading " ++ path ++ ": " ++ fault.text
  | .toml path => "invalid settings in " ++ path

/-- The file that is used when none is given and it is there. -/
def defaultPath : String := "seedcheck.toml"

def readFile (files : Files.Tree) (path : String) : Except Fault Settings :=
  match files.readText path with
  | .error fault => .error (.io path fault)
  | .ok source =>
    match parse source with
    | some s => .ok s
    | none => .error (.toml path)

/-- The variables that may hold the connection of the administrator, the first one set
counts. -/
def adminVariables : List String := ["SEEDCHECK_ADMIN_DATABASE_URL", "DATABASE_URL"]

/-- Fills in the connection of the administrator from the environment. -/
def withEnvironment (env : Environment) (s : Settings) : Settings :=
  { s with database := { s.database with
      adminUrl := s.database.adminUrl.or (adminVariables.findSome? (Assoc.find? env)) } }

/-- The settings in the given file, which must be there; in the default file, if it is
there; or the defaults. -/
def load (files : Files.Tree) (env : Environment) (path : Option String) :
    Except Fault Settings :=
  let settings :=
    match path with
    | some path => readFile files path
    | none => if files.exists? defaultPath then readFile files defaultPath else .ok defaults
  settings.map (withEnvironment env)

end Settings

end SchemaSeed
