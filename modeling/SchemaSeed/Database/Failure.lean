/-!
# How a database fails

A database answers a statement or a connection with an error, cannot be reached, or lets
the time for a connection pass. A plain failure names its kind; the report of a run shows
an answered error with its code instead.
-/

namespace SchemaSeed.Database

/-- An error that the server sent. -/
structure ServerError where
  message : String
  /-- The SQLSTATE, five letters or digits. -/
  code : String
  deriving DecidableEq, Repr

/-- Whether a connection that failed this way may succeed a little later: there are too
many connections, or the server is starting up. -/
def ServerError.isTransient (e : ServerError) : Bool := e.code = "53300" || e.code = "57P03"

inductive Failure where
  | answered (error : ServerError)
  /-- Nobody listens at the address. -/
  | connectionRefused
  /-- The transport failed in another way. -/
  | transport (reason : String)
  /-- No connection was established in time. -/
  | poolTimedOut
  deriving DecidableEq, Repr

namespace Failure

def text : Failure → String
  | .answered e => "error returned from database: " ++ e.message
  | .connectionRefused =>
    "error communicating with database: Connection refused (os error 111)"
  | .transport reason => "error communicating with database: " ++ reason
  | .poolTimedOut => "pool timed out while waiting for an open connection"

def report : Failure → String
  | .answered e => e.message ++ " (SQLSTATE " ++ e.code ++ ")"
  | f => f.text

/-- Whether an attempt to connect goes on after this failure. -/
def isTransient : Failure → Bool
  | .answered e => e.isTransient
  | .connectionRefused => true
  | .transport _ | .poolTimedOut => false

end Failure

/-- What breaks off the work itself. -/
inductive Interruption where
  /-- The time allowed for the work is up. -/
  | timeUp
  /-- A deadline, or the end of a pause, lies beyond what the clock can show. -/
  | clockOverflow
  deriving DecidableEq, Repr

inductive Setback where
  | failure (failure : Failure)
  | interruption (interruption : Interruption)
  deriving DecidableEq, Repr

end SchemaSeed.Database
