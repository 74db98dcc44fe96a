import SchemaSeed.Database.Connect
import SchemaSeed.Database.Failure
import SchemaSeed.Event

/-!
# Database servers

A server answers from a state of its own, and its clock shows the time that passes while it
is asked and while a client waits. The clock never goes back.
-/

namespace SchemaSeed.Database

/-- What a server says to a client that connects. A silent one leaves it to the client when to give
up. -/
inductive Greeting where
  | accepted
  | refused (failure : Failure)
  /-- The server never answers. -/
  | silent
  deriving DecidableEq, Repr

structure Server (σ : Type) where
  /-- The clock, in nanoseconds. -/
  now : σ → Nat
  /-- Lets a number of nanoseconds pass. -/
  sleep : Nat → σ → σ
  greet : Connect → σ → Greeting × σ
  /-- Whether a connection to a database is alive. -/
  ping : String → σ → Except Failure Unit × σ
  /-- A statement for a database; the answer is the number of affected rows. -/
  execute : String → String → σ → Except Failure UInt64 × σ
  now_sleep : ∀ duration s, duration + now s ≤ now (sleep duration s)
  now_greet : ∀ connect s, now s ≤ now (greet connect s).2

/-- A statement that a server received: for which database, and whether it was accepted. -/
structure Sent where
  database : String
  sql : String
  accepted : Bool
  deriving DecidableEq, Repr

/-- What has happened so far: the state of the server, what was logged, and what the server
received, both in order. -/
structure Journal (σ : Type) where
  state : σ
  events : List Event
  sent : List Sent

namespace Journal

def begin (state : σ) : Journal σ := ⟨state, [], []⟩

def log (j : Journal σ) (event : Event) : Journal σ := { j with events := j.events ++ [event] }

def moveTo (j : Journal σ) (state : σ) : Journal σ := { j with state }

end Journal

/-- Sends a statement to a database. It counts as received whether the server accepts it or not. -/
def Server.send (server : Server σ) (database sql : String) (j : Journal σ) :
    Except Failure UInt64 × Journal σ :=
  let (answer, state) := server.execute database sql j.state
  (answer, { j with state, sent := j.sent ++ [⟨database, sql, answer.isOk⟩] })

/-- Whether the moment `limit`, if there is one, has come. -/
def Server.isTimeUp (server : Server σ) (limit : Option Nat) (s : σ) : Bool :=
  limit.any (· ≤ server.now s)

end SchemaSeed.Database
