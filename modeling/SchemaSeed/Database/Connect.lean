/-!
# Where and how to connect
-/

namespace SchemaSeed.Database

inductive Host where
  /-- A host name or an address. -/
  | name (name : String)
  /-- The directory of a local socket. -/
  | directory (path : String)
  deriving DecidableEq, Repr

/-- What a client needs to know to open a connection. -/
structure Connect where
  host : Host
  port : Nat
  user : Option String
  password : Option String
  database : Option String
  deriving DecidableEq, Repr

namespace Connect

def standard : Connect := ⟨.name "localhost", 5432, none, none, none⟩

/-- The database that the connection leads to: the one named after the user when none is
given. -/
def databaseName (c : Connect) : String := c.database.getD (c.user.getD "")

def toDatabase (c : Connect) (name : String) : Connect := { c with database := some name }

end Connect

/-- How patient a client is, in seconds, and how many connections it keeps. -/
structure Options where
  maxConnections : Nat
  acquireTimeout : Nat
  /-- How long to retry the first connection while the server starts. -/
  readyTimeout : Nat
  deriving DecidableEq, Repr

end SchemaSeed.Database
