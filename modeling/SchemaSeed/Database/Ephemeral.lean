import SchemaSeed.Database.Seeding

/-!
# Databases for one run

A database is created over an admin connection, used for one run, and dropped again,
whatever came of the run.
-/

namespace SchemaSeed.Database

/-- A database that was created for one run. -/
structure Ephemeral where
  /-- The connection it was created over. -/
  admin : Connect
  name : String
  deriving DecidableEq, Repr

def ephemeralName (id : String) : String := "seedcheck_" ++ id

/-- Why a database was not created, or not dropped, in the words of the log and of the responses. -/
def provisionMessage (f : Failure) : String := "database error: " ++ f.text

namespace Ephemeral

def createStatement (name : String) : String := "CREATE DATABASE \"" ++ name ++ "\""

def dropStatement (name : String) : String :=
  "DROP DATABASE IF EXISTS \"" ++ name ++ "\" WITH (FORCE)"

def connect (e : Ephemeral) : Connect := e.admin.toDatabase e.name

variable {σ : Type} (server : Server σ)

/-- Creates a database named `name`, over one connection of the administrator. Unlike the connection
of a run, it is not tried again. -/
def create (admin : Connect) (options : Options) (name : String) (j : Journal σ) :
    Except Setback Ephemeral × Journal σ :=
  match openPool server admin 1 options.acquireTimeout none j.state with
  | (.error setback, s) => (.error setback, j.moveTo s)
  | (.ok (), s) =>
    match server.send admin.databaseName (createStatement name) (j.moveTo s) with
    | (.error f, j) => (.error (.failure f), j)
    | (.ok _, j) => (.ok ⟨admin, name⟩, j.log (.databaseCreated name))

/-- Drops the database, with the sessions that are left on it. -/
def drop (e : Ephemeral) (j : Journal σ) : Except Failure Unit × Journal σ :=
  match server.send e.admin.databaseName (dropStatement e.name) j with
  | (.error f, j) => (.error f, j)
  | (.ok _, j) => (.ok (), j.log (.databaseDropped e.name))

/-- Drops the database. A failure is only logged, since the run has its outcome already. -/
def tearDown (e : Ephemeral) (work : WorkId) (j : Journal σ) : Journal σ :=
  match e.drop server j with
  | (.ok (), j) => j
  | (.error f, j) => j.log (.teardownFailed work (provisionMessage f))

end Ephemeral

end SchemaSeed.Database
