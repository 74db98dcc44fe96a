import SchemaSeed.Json.Value
import SchemaSeed.Text.Quoted

/-!
# Log events

What the program says about its work. An event has a name, a level and fields; the fields
are kept in the order in which they are logged.
-/

namespace SchemaSeed

inductive Level where
  | debug
  | info
  | warn
  | error
  deriving DecidableEq, Repr

def Level.name : Level → String
  | .debug => "DEBUG"
  | .info => "INFO"
  | .warn => "WARN"
  | .error => "ERROR"

/-- What a log event is about, where both requests and runs can be meant. -/
inductive WorkId where
  | request (id : String)
  | run (id : String)
  deriving DecidableEq, Repr

inductive Event where
  /-- A run begins on a database of some engine. -/
  | runStarted (engine : String)
  /-- A statement of the schema was rejected; they are numbered from 1. -/
  | schemaStatementFailed (index : Nat)
  /-- An error was recorded. -/
  | runError (fatal : Bool) (error : String)
  /-- The tables have an order. -/
  | tableOrderResolved (tables : List String)
  /-- The mock data has rows for a table that the schema does not know. -/
  | mockTableSkipped (table : String)
  /-- The mock data has an empty list of rows for a table. -/
  | tableSkipped (table : String)
  /-- The rows of a table were inserted. -/
  | tableSeeded (table : String) (rows : UInt64)
  /-- A run ended with an error that ends it. -/
  | runAborted (executionTime : String)
  /-- A run came to its end. -/
  | runCompleted (schemaValid dataValid : Bool) (errors : Nat) (executionTime : String)
  /-- A connection failed, and there is time for another attempt. -/
  | connectRetry (attempt : UInt32) (error : String)
  | databaseCreated (database : String)
  | databaseDropped (database : String)
  /-- The database of a request or a run could not be dropped. -/
  | teardownFailed (work : WorkId) (error : String)
  | requestReceived (requestId : String)
  | invalidRequest (error : String)
  | provisionFailed (requestId error : String)
  | requestTimedOut (requestId : String)
  | cliRunStarted (runId database : String)
  | reportWritten (path : String)
  | serverStarted (bind adminDatabase : String) (processId : Nat)
  | serverStopped
  deriving DecidableEq, Repr

namespace Event

def name : Event → String
  | .runStarted _ => "run_started"
  | .schemaStatementFailed _ => "ddl_statement_failed"
  | .runError _ _ => "run_error"
  | .tableOrderResolved _ => "table_order_resolved"
  | .mockTableSkipped _ => "mock_table_skipped"
  | .tableSkipped _ => "table_skipped"
  | .tableSeeded _ _ => "table_seeded"
  | .runAborted _ | .runCompleted _ _ _ _ => "run_finished"
  | .connectRetry _ _ => "connect_retry"
  | .databaseCreated _ => "database_created"
  | .databaseDropped _ => "database_dropped"
  | .teardownFailed _ _ => "teardown_failed"
  | .requestReceived _ => "request_received"
  | .invalidRequest _ => "invalid_request"
  | .provisionFailed _ _ => "provision_failed"
  | .requestTimedOut _ => "request_timed_out"
  | .cliRunStarted _ _ => "cli_run_started"
  | .reportWritten _ => "report_written"
  | .serverStarted _ _ _ => "server_started"
  | .serverStopped => "server_stopped"

def level : Event → Level
  | .schemaStatementFailed _ | .tableSkipped _ | .connectRetry _ _ => .debug
  | .runError _ _ | .mockTableSkipped _ | .teardownFailed _ _ | .invalidRequest _ => .warn
  | .provisionFailed _ _ | .requestTimedOut _ => .error
  | .runStarted _ | .tableOrderResolved _ | .tableSeeded _ _ | .runAborted _
  | .runCompleted _ _ _ _ | .databaseCreated _ | .databaseDropped _ | .requestReceived _
  | .cliRunStarted _ _ | .reportWritten _ | .serverStarted _ _ _ | .serverStopped => .info

open Json (Value)

def count (n : Nat) : Value := .number (.int n)

def fields : Event → List (String × Value)
  | .runStarted engine => [("engine", .string engine)]
  | .schemaStatementFailed index => [("index", count index)]
  | .runError fatal error => [("fatal", .bool fatal), ("error", .string error)]
  | .tableOrderResolved tables => [("tables", .string (Text.quotedList tables))]
  | .mockTableSkipped table => [("table", .string table), ("reason", .string "not declared")]
  | .tableSkipped table => [("table", .string table), ("reason", .string "no rows")]
  | .tableSeeded table rows => [("table", .string table), ("rows", count rows.toNat)]
  | .runAborted executionTime =>
    [("status", .string "aborted"), ("execution_time", .string executionTime)]
  | .runCompleted schemaValid dataValid errors executionTime =>
    [("status", .string "completed"), ("schema_valid", .bool schemaValid),
      ("data_valid", .bool dataValid), ("errors", count errors),
      ("execution_time", .string executionTime)]
  | .connectRetry attempt error => [("attempt", count attempt.toNat), ("error", .string error)]
  | .databaseCreated database | .databaseDropped database => [("database", .string database)]
  | .teardownFailed (.request id) error | .provisionFailed id error =>
    [("request_id", .string id), ("error", .string error)]
  | .teardownFailed (.run id) error => [("run_id", .string id), ("error", .string error)]
  | .requestReceived id | .requestTimedOut id => [("request_id", .string id)]
  | .invalidRequest error => [("error", .string error)]
  | .cliRunStarted id database => [("run_id", .string id), ("database", .string database)]
  | .reportWritten path => [("path", .string path)]
  | .serverStarted bind adminDatabase processId =>
    [("bind", .string bind), ("admin_database", .string adminDatabase),
      ("pid", count processId)]
  | .serverStopped => []

def toJson (e : Event) : Value :=
  .object (("level", .string e.level.name) :: ("event", .string e.name) :: e.fields)

end Event

end SchemaSeed
