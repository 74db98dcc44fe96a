import SchemaSeed.Command.Arguments
import SchemaSeed.Command.World
import SchemaSeed.Database.Ephemeral
import SchemaSeed.Database.Redact

/-!
# The command `run`

One run: the files are read, the schema and its mock data are validated on the database of
the URL or on one created for the run, the report is printed, and, if asked for, written to
a file together with the particulars of the run. An aborted run is a failure, after all
this is done.
-/

namespace SchemaSeed.Command

open Database (Connect Ephemeral Interruption Journal Options Server)

structure Plan where
  schema : String
  mockData : String
  url : String
  connect : Connect

/-- All that is read before anything is done: the schema, the mock data, and then the URL. The first
that cannot be used decides the fault. -/
def plan (settings : Settings) (arguments : RunArguments) (files : Files.Tree) :
    Except Fault Plan := do
  let schema ← (files.readText arguments.schema).mapError fun f => .io f.text
  let mockData ← (files.readText arguments.mockData).mapError fun f => .io f.text
  match arguments.databaseUrl.or settings.database.adminUrl with
  | none => .error (.invalidConfig "database url is required")
  | some url =>
    let connect ← (Database.Url.parse url).mapError .databaseUrl
    return ⟨schema, mockData, url, connect⟩

inductive Obstacle where
  | fault (fault : Fault)
  | interruption (interruption : Interruption)

/-- What a run was about, and what came of it. -/
structure Finding where
  /-- The database, without the secrets of its URL. -/
  target : String
  outcome : Outcome

variable {σ : Type} (server : Server σ)

/-- Runs on the database of the URL, which is neither created nor dropped. -/
def runDirectly (options : Options) (p : Plan) (j : Journal σ) :
    Except Obstacle Finding × Journal σ :=
  match Database.runOn server p.connect options none p.schema p.mockData j with
  | (.error i, j) => (.error (.interruption i), j)
  | (.ok outcome, j) => (.ok ⟨Database.redact p.url, outcome⟩, j)

/-- Runs on a database that is created for the run, and drops it when there is an outcome. -/
def runOnEphemeral (options : Options) (stamps : Stamps) (p : Plan) (j : Journal σ) :
    Except Obstacle Finding × Journal σ :=
  let name := Database.ephemeralName stamps.databaseId
  match Ephemeral.create server p.connect options name j with
  | (.error (.interruption i), j) => (.error (.interruption i), j)
  | (.error (.failure f), j) =>
    (.error (.fault (.provision (Database.provisionMessage f))), j)
  | (.ok database, j) =>
    match Database.runOn server database.connect options none p.schema p.mockData j with
    | (.error i, j) => (.error (.interruption i), j)
    | (.ok outcome, j) =>
      (.ok ⟨Database.redact p.url ++ " (ephemeral " ++ database.name ++ ")", outcome⟩,
        database.tearDown server (.run stamps.runId) j)

/-- The document that is written for a run: the report, and when and where the run took place. -/
def runReport (stamps : Stamps) (finding : Finding) : Json.Value :=
  .object [
    ("run_id", .string stamps.runId),
    ("started_at", .string stamps.startedAt),
    ("finished_at", .string stamps.finishedAt),
    ("database", .string finding.target),
    ("aborted", .bool finding.outcome.isAborted),
    ("result", finding.outcome.report.toJson)]

/-- Writes the document of a run, with the directories that its path needs. Directories that
were created stay, even if the document cannot be written. -/
def writeReport (path : String) (document : Json.Value) (files : Files.Tree) :
    Except Files.Fault Unit × Files.Tree :=
  match files.createParent path with
  | .error f => (.error f, files)
  | .ok files =>
    match files.write path (.text document.toPretty) with
    | .error f => (.error f, files)
    | .ok files => (.ok (), files)

/-- How the command ends after a run. Only an aborted run is a failure, whatever errors a completed
one has recorded. -/
def endingOf : Outcome → Ending
  | .completed _ => .done
  | .aborted _ error => .failed (.aborted error.message)

/-- Prints the report, and writes the document of the run if a path is given. What was printed
stays, even if the document cannot be written. -/
def publish (stamps : Stamps) (out : Option String) (finding : Finding) (w : World σ) :
    Ending × World σ :=
  let w := { w with stdout := w.stdout ++ finding.outcome.report.toJson.toPretty ++ "\n" }
  match out with
  | none => (endingOf finding.outcome, w)
  | some path =>
    match writeReport path (runReport stamps finding) w.files with
    | (.error f, files) => (.failed (.io f.text), { w with files })
    | (.ok (), files) =>
      (endingOf finding.outcome,
        { w with files, journal := w.journal.log (.reportWritten path) })

/-- Carries out the command. Without a plan nothing happens that would be logged. -/
def runOnce (settings : Settings) (arguments : RunArguments) (stamps : Stamps) (w : World σ) :
    Ending × World σ :=
  match plan settings arguments w.files with
  | .error fault => (.failed fault, w)
  | .ok p =>
    let j := w.journal.log (.cliRunStarted stamps.runId (Database.redact p.url))
    let found :=
      if arguments.ephemeral then runOnEphemeral server settings.options stamps p j
      else runDirectly server settings.options p j
    match found with
    | (.error (.fault fault), journal) => (.failed fault, { w with journal })
    | (.error (.interruption i), journal) => (.brokenOff i, { w with journal })
    | (.ok finding, journal) => publish stamps arguments.out finding { w with journal }

end SchemaSeed.Command
