import SchemaSeed.Command.Arguments
import SchemaSeed.Command.World
import SchemaSeed.Database.Redact
import SchemaSeed.Service.Handler

/-!
# The command `serve`

The service listens on an address and handles requests one after another until it is told
to stop.
-/

namespace SchemaSeed.Command

open Database (Journal Server)
open Service (Config Request Response)

/-- A request, and the names that it is given. -/
structure Arrival where
  requestId : String
  databaseId : String
  request : Request

structure ServicePlan where
  bind : String
  adminUrl : String
  config : Config

/-- The address and the connection of the administrator. -/
def servicePlan (settings : Settings) (arguments : ServeArguments) :
    Except Fault ServicePlan := do
  let bind := arguments.bind.getD settings.server.bind
  match arguments.adminDatabaseUrl.or settings.database.adminUrl with
  | none => .error (.invalidConfig "admin database url is required")
  | some adminUrl =>
    let admin ← (Database.Url.parse adminUrl).mapError .databaseUrl
    return ⟨bind, adminUrl, ⟨admin, settings.options, settings.requestTimeout⟩⟩

/-- An address is a host and a port, which fits 16 bits. -/
def checkAddress (address : String) : Except Fault Unit :=
  match Text.cutLast? ':' address.toList with
  | none => .error (.io "invalid socket address")
  | some (_, port) =>
    match Database.Url.number 65536 (String.ofList port) with
    | .ok _ => .ok ()
    | .error _ => .error (.io "invalid port value")

variable {σ : Type} (server : Server σ)

/-- Handles requests in the order of their arrival, each in the state in which the one before has
left the server. -/
def handleAll (config : Config) (j : Journal σ) :
    List Arrival → Except Database.Interruption (List Response) × Journal σ
  | [] => (.ok [], j)
  | a :: rest =>
    match Service.handle server config a.requestId (Database.ephemeralName a.databaseId)
      a.request j with
    | (.error i, j) => (.error i, j)
    | (.ok response, j) =>
      let (responses, j) := handleAll config j rest
      (responses.map (response :: ·), j)

/-- Carries out the command: the requests that arrive are handled, and then the service is
told to stop. -/
def serve (settings : Settings) (arguments : ServeArguments) (stamps : Stamps)
    (arrivals : List Arrival) (w : World σ) : Ending × World σ :=
  match servicePlan settings arguments with
  | .error fault => (.failed fault, w)
  | .ok p =>
    match checkAddress p.bind with
    | .error fault => (.failed fault, w)
    | .ok () =>
      let started := w.journal.log
        (.serverStarted p.bind (Database.redact p.adminUrl) stamps.processId)
      match handleAll server p.config started arrivals with
      | (.error i, journal) => (.brokenOff i, { w with journal })
      | (.ok _, journal) => (.done, { w with journal := journal.log .serverStopped })

end SchemaSeed.Command
