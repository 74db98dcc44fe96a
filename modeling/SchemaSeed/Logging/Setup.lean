import SchemaSeed.Logging.Filter
import SchemaSeed.Settings

/-!
# Setting up the log

The filter comes from the environment, if there is a valid one, or from the settings. Then
the log file is opened, and the log is installed, once in the life of a program.
-/

namespace SchemaSeed.Logging

inductive Fault where
  | filter
  | io (fault : Files.Fault)
  /-- Another log was installed before. -/
  | installed
  deriving DecidableEq, Repr

def Fault.text : Fault → String
  | .filter => "invalid log filter"
  | .io fault => "io error: " ++ fault.text
  | .installed => "logging error: a log is installed already"

def filterVariable : String := "RUST_LOG"

/-- Whether the environment or the settings have a valid filter. -/
def hasFilter (env : Environment) (s : LoggingSettings) : Bool :=
  (Assoc.find? env filterVariable).any isFilter || isFilter s.level

/-- Sets up the log in a program that has one already if `installed` holds. The log file
stays open in any case. -/
def setUp (installed : Bool) (env : Environment) (s : LoggingSettings) (files : Files.Tree) :
    Except Fault Unit × Files.Tree :=
  if !hasFilter env s then (.error .filter, files)
  else
    match s.file.mapM files.openForAppending with
    | .error fault => (.error (.io fault), files)
    | .ok opened => (if installed then .error .installed else .ok (), opened.getD files)

end SchemaSeed.Logging
