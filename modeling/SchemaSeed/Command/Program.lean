import SchemaSeed.Command.Run
import SchemaSeed.Command.Serve

/-!
# The program

The command line is read, the settings are loaded, and the command is carried out.
-/

namespace SchemaSeed.Command

/-- The paths that an order names, where something may be. -/
def Order.paths : Order → List String
  | .run a => a.schema :: a.mockData :: a.out.toList
  | .serve _ => []

/-- The file of the settings: the one given, or the usual one. -/
def CommandLine.settingsPath (line : CommandLine) : String :=
  line.config.getD Settings.defaultPath

def carryOut (server : Database.Server σ) (settings : Settings) (order : Order)
    (stamps : Stamps) (arrivals : List Arrival) (w : World σ) : Ending × World σ :=
  match order with
  | .run arguments => runOnce server settings arguments stamps w
  | .serve arguments => serve server settings arguments stamps arrivals w

/-- Sets up the log, and carries out an order. If there can be no log, the order is not carried out.
-/
def perform (server : Database.Server σ) (env : Environment) (settings : Settings)
    (order : Order) (stamps : Stamps) (arrivals : List Arrival) (files : Files.Tree)
    (state : σ) : Ending × World σ :=
  match Logging.setUp false env settings.logging files with
  | (.error fault, files) => (.failed (.logging fault), .begin files state)
  | (.ok (), files) => carryOut server settings order stamps arrivals (.begin files state)

end SchemaSeed.Command
