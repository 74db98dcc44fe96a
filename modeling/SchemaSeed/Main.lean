import SchemaSeed.Command.Program
import SchemaSeed.Database.Scripted
import SchemaSeed.Logging.Setup
import Std.Time.Format

/-!
# The program on a machine

The files that the command line and the settings name are read, the command is carried out
on them, and what it printed, logged and changed is put where it belongs. There is no network:
all servers are unreachable.
-/

namespace SchemaSeed.Machine

open Command (ArgumentFault Ending Stamps)

def usage : String := "Validate a schema and its mock data against PostgreSQL

Usage: seedcheck [--config <PATH>] run --schema <PATH> --mock-data <PATH>
                 [--database-url <CONNECTION_STRING>] [--ephemeral] [--out <PATH>]
       seedcheck [--config <PATH>] serve [--bind <ADDR>]
                 [--admin-database-url <CONNECTION_STRING>]
       seedcheck --help | --version"

def version : String := "seedcheck 0.1.0"

def look (path : String) : IO (Option Files.Entry) := do
  match ← (IO.FS.readBinFile path).toBaseIO with
  | .ok bytes => return some (.file (.ofBytes bytes.toList))
  | .error (.inappropriateType ..) => return some .directory
  | .error (.noFileOrDirectory ..) => return none
  | .error e => throw e

def surroundings : IO Files.Tree := do
  let path := toString (← IO.currentDir)
  return .bare ((Files.names path).filter (· ≠ ""))

/-- Puts what is at a path, and the directories on the way, into the tree. -/
def explore (t : Files.Tree) (path : String) : IO Files.Tree := do
  let mut t := t
  let mut place := t.start path
  for name in Files.names path do
    if name = ".." then place := place.dropLast
    else if name ≠ "" ∧ name ≠ "." then
      place := place ++ [name]
      match ← look ("/" ++ "/".intercalate place) with
      | some entry => t := t.put place entry
      | none => return t
  return t

/-- The variables that mean something to the program, as far as they are set. -/
def environment : IO Environment := do
  (Logging.filterVariable :: Settings.adminVariables).filterMapM fun name => do
    return (← IO.getEnv name).map (name, ·)

def randomName : IO String := do
  let bytes ← IO.getRandomBytes 16
  return String.ofList (bytes.toList.flatMap fun b =>
    [(b / 16).toNat.digitChar, (b % 16).toNat.digitChar])

def timestamp : IO String := do
  let now ← Std.Time.Timestamp.now
  return (Std.Time.DateTime.ofTimestamp now .UTC).format "uuuu-MM-dd'T'HH:mm:ss.SSSSSSSSSxxx"

/-- The number of this process, which the system shows as a file. -/
def processId : IO Nat := do
  match ← (IO.FS.readFile "/proc/self/stat").toBaseIO with
  | .ok line => return ((line.splitOn " ").head?.bind String.toNat?).getD 0
  | .error _ => return 0

def stamps : IO Stamps := do
  let now ← timestamp
  return ⟨← randomName, ← randomName, now, now, ← processId⟩

def server : Database.Server Database.Scripted.State :=
  (⟨⟨[], [], none⟩, "", true, none, none⟩ : Database.Scripted).server

def save (before after : Files.Tree) : IO Unit := do
  for (path, content) in after.files do
    if Assoc.find? before.files path != some content then
      let parent := "/".intercalate (Files.names path).dropLast
      if !parent.isEmpty then IO.FS.createDirAll parent
      match content with
      | .text text => IO.FS.writeFile path text
      | .binary bytes => IO.FS.writeBinFile path ⟨bytes.toArray⟩

/-- Writes the events of a command, one a line, to the log file or the standard error. A log
file that could not be opened gets none. -/
def saveLog (file : Option String) (events : List Event) : IO Unit := do
  let lines := events.map fun e => e.toJson.toCompact
  match file with
  | none => lines.forM fun line => IO.eprintln line
  | some path =>
    if !lines.isEmpty then
      IO.FS.withFile path .append fun handle => lines.forM handle.putStrLn

/-- Answers a command line that asks for help or cannot be carried out. -/
def explain : ArgumentFault → IO UInt32
  | .displayHelp => do IO.println usage; return 0
  | .displayVersion => do IO.println version; return 0
  | _ => do IO.eprintln usage; return 2

def complain (text : String) : IO UInt32 := do
  IO.eprintln ("Error: " ++ text)
  return 1

def finish : Ending → IO UInt32
  | .done => return 0
  | .failed fault => complain fault.text
  | .brokenOff .timeUp => complain "the time for the work is up"
  | .brokenOff .clockOverflow => do
    IO.eprintln "overflow when adding duration to instant"
    return 101

def runLine (arguments : List String) : IO UInt32 := do
  match Command.parseArguments arguments with
  | .error fault => explain fault
  | .ok line =>
    let env ← environment
    let files ← explore (← surroundings) line.settingsPath
    match Settings.load files env line.config with
    | .error fault => complain (Command.Fault.settings fault).text
    | .ok settings =>
      let files ← (line.order.paths ++ settings.logging.file.toList).foldlM explore files
      let (ending, w) :=
        Command.perform server env settings line.order (← stamps) [] files ⟨0, 0⟩
      save files w.files
      saveLog settings.logging.file w.journal.events
      IO.print w.stdout
      finish ending

end SchemaSeed.Machine

def main (arguments : List String) : IO UInt32 := SchemaSeed.Machine.runLine arguments
