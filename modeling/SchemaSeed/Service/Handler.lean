import SchemaSeed.Database.Ephemeral
import SchemaSeed.Service.MediaType
import SchemaSeed.Service.Message
import SchemaSeed.Service.TestRequest

/-!
# Handling requests

A test runs on a database that is created for it and dropped afterwards, also when the time
for the run is up. A completed run is answered with its report, even if the report lists
errors; an aborted one is a failure of the server.
-/

namespace SchemaSeed.Service

open Database (Connect Ephemeral Interruption Journal Options Server)

structure Config where
  /-- The connection over which databases are created. -/
  admin : Connect
  options : Options
  /-- The time for one run, in seconds. -/
  requestTimeout : Nat

/-- The test that a request asks for. Its body must be said to be JSON, take up at most two
mebibytes, and hold an object with the fields of a test. -/
def acceptTest (r : Request) : Option TestRequest :=
  match r.contentType.bind MediaType.parse with
  | some media =>
    if media.isJson && r.body.byteCount ≤ 2 * 1024 * 1024 then TestRequest.ofBody r.body
    else none
  | none => none

/-- The response to a run that came to an end. A report that lists errors is no failure of the
service. -/
def respond : Outcome → Response
  | .completed report => .json 200 report.toJson
  | .aborted _ error => .error 500 "failed to run tests" (some error.message)

/-- The response to a run that was broken off. It has the form of that to an aborted one. -/
def timedOut (seconds : Nat) : Response :=
  .error 500 "failed to run tests" (some ("timed out after " ++ toString seconds ++ "s"))

variable {σ : Type} (server : Server σ) (config : Config)

/-- Runs a test on a database that was created for it, and drops the database. The time for the run
begins when the database is there, and a run that is given up leaves none behind. -/
def runTest (requestId : String) (test : TestRequest) (database : Ephemeral) (j : Journal σ) :
    Except Interruption Response × Journal σ :=
  let limit := 1_000_000_000 * config.requestTimeout + server.now j.state
  match Database.runOn server database.connect config.options (some limit)
    test.schema test.mockData j with
  | (.error .clockOverflow, j) => (.error .clockOverflow, j)
  | (.ok outcome, j) =>
    (.ok (respond outcome), database.tearDown server (.request requestId) j)
  | (.error .timeUp, j) =>
    let j := database.tearDown server (.request requestId) j
    (.ok (timedOut config.requestTimeout), j.log (.requestTimedOut requestId))

/-- Handles a request for a test. The request and its database get the names given. -/
def handleTest (requestId databaseName : String) (r : Request) (j : Journal σ) :
    Except Interruption Response × Journal σ :=
  match acceptTest r with
  | none =>
    (.ok (.error 400 "invalid JSON provided" none), j.log (.invalidRequest "invalid body"))
  | some test =>
    match Ephemeral.create server config.admin config.options databaseName
      (j.log (.requestReceived requestId)) with
    | (.error (.interruption i), j) => (.error i, j)
    | (.error (.failure f), j) =>
      let message := Database.provisionMessage f
      (.ok (.error 500 "failed to provision database" (some message)),
        j.log (.provisionFailed requestId message))
    | (.ok database, j) => runTest server config requestId test database j

def Request.path (r : Request) : String :=
  String.ofList (r.target.toList.takeWhile fun c => c != '?' && c != '#')

/-- Handles a request. There is a path for tests and one for the question whether the service is
there; everything else is turned down without a body. -/
def handle (requestId databaseName : String) (r : Request) (j : Journal σ) :
    Except Interruption Response × Journal σ :=
  if r.path = "/test" then
    if r.method = "POST" then handleTest server config requestId databaseName r j
    else (.ok (.bare 405), j)
  else if r.path = "/health" then
    if r.method = "GET" then (.ok ⟨200, some "text/plain; charset=utf-8", "OK"⟩, j)
    else if r.method = "HEAD" then (.ok ⟨200, some "text/plain; charset=utf-8", ""⟩, j)
    else (.ok (.bare 405), j)
  else (.ok (.bare 404), j)

end SchemaSeed.Service
