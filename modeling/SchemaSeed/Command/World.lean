import SchemaSeed.Database.Server
import SchemaSeed.Database.Url
import SchemaSeed.Logging.Setup
import SchemaSeed.SeedError

/-!
# What a command works on, and how it ends
-/

namespace SchemaSeed.Command

/-- What a command reads and leaves behind. -/
structure World (σ : Type) where
  files : Files.Tree
  /-- What was printed. -/
  stdout : String
  journal : Database.Journal σ

def World.begin (files : Files.Tree) (state : σ) : World σ := ⟨files, "", .begin state⟩

/-- Names and times that the machine makes up. -/
structure Stamps where
  /-- The name of the run. -/
  runId : String
  /-- What tells the database of the run from others. -/
  databaseId : String
  startedAt : String
  finishedAt : String
  processId : Nat

inductive Fault where
  | settings (fault : Settings.Fault)
  | logging (fault : Logging.Fault)
  | io (reason : String)
  | databaseUrl (fault : Database.Url.Fault)
  | provision (reason : String)
  | invalidConfig (reason : String)
  | aborted (reason : String)
  deriving DecidableEq, Repr

def Fault.text : Fault → String
  | .settings fault => "settings error: " ++ fault.text
  | .logging fault => "logging error: " ++ fault.text
  | .io reason => "io error: " ++ reason
  | .databaseUrl fault => "invalid database url: " ++ fault.text
  | .provision reason => "provisioning error: " ++ reason
  | .invalidConfig reason => "invalid configuration: " ++ reason
  | .aborted reason => "run aborted: " ++ reason

inductive Ending where
  | done
  | failed (fault : Fault)
  | brokenOff (interruption : Database.Interruption)
  deriving DecidableEq, Repr

end SchemaSeed.Command
