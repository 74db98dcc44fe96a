import SchemaSeed.Database.Pool
import SchemaSeed.Run.Seeding

/-!
# Runs on a server

A run on a database of a server: once there is a connection, the dialogue of the run is
carried out there, each statement sent to that one database. At the limit, if one is given,
the dialogue is broken off, at the latest when the answer that it waits for has come.
-/

namespace SchemaSeed.Database

variable {σ : Type} (server : Server σ)

/-- Carries out a dialogue with a database. The limit is looked at whenever an answer has come, so
that what was sent is in the journal even if nobody waits for the answer any more. -/
def converse (database : String) (limit : Option Nat) :
    Dialogue α → Journal σ → Except Interruption α × Journal σ
  | .done a, j => (.ok a, j)
  | .log e k, j => converse database limit k (j.log e)
  | .clock k, j => converse database limit (k (server.now j.state)) j
  | .ping k, j =>
    let (answer, s) := server.ping database j.state
    if server.isTimeUp limit s then (.error .timeUp, j.moveTo s)
    else converse database limit (k (answer.mapError Failure.report)) (j.moveTo s)
  | .execute sql k, j =>
    let (answer, j) := server.send database sql j
    if server.isTimeUp limit j.state then (.error .timeUp, j)
    else converse database limit (k (answer.mapError Failure.report)) j

def engine : String := "postgres"

/-- Connects, and validates a schema and its mock data on the database. Without a
connection the run is over before it begins. -/
def runOn (connect : Connect) (options : Options) (limit : Option Nat)
    (schema mockData : String) (j : Journal σ) : Except Interruption Outcome × Journal σ :=
  let database := connect.databaseName
  match connectWhenReady server connect options limit j with
  | (.ok (), j) => converse server database limit (Run.run engine schema mockData) j
  | (.error (.failure f), j) => converse server database none (Run.unconnected f.text) j
  | (.error (.interruption i), j) => (.error i, j)

end SchemaSeed.Database
