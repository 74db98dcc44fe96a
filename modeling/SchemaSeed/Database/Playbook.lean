import SchemaSeed.Database.Failure
import SchemaSeed.Run.Executor
import SchemaSeed.Text.Search

/-!
# Databases that follow a playbook

A playbook says how a database answers, by what stands in a statement: the first rejection
whose fragment occurs decides, or else the first count whose fragment occurs. Without any,
a statement is accepted and affects a row for each tuple in it.
-/

namespace SchemaSeed.Database

/-- Statements that hold the fragment are answered with the error. -/
structure Rejection where
  fragment : String
  error : ServerError

structure Playbook where
  rejections : List Rejection
  /-- Fragments, and how many rows the statements that hold them affect. -/
  counts : List (String × UInt64)
  /-- Why the database counts as dead, if it does. -/
  dead : Option String

namespace Playbook

/-- The number of rows that an accepted statement affects. -/
def affected (p : Playbook) (sql : String) : UInt64 :=
  match p.counts.find? fun entry => Text.contains sql entry.1 with
  | some (_, n) => n
  | none => .ofNat (Text.count ['\t', '('] sql.toList)

def answer (p : Playbook) (sql : String) : Except ServerError UInt64 :=
  match p.rejections.find? fun r => Text.contains sql r.fragment with
  | some r => .error r.error
  | none => .ok (p.affected sql)

def alive (p : Playbook) : Except String Unit :=
  match p.dead with
  | some message => .error message
  | none => .ok ()

/-- An executor that keeps nothing in mind. Its clock stands still, and its errors are
messages without a code. -/
def executor (p : Playbook) (engine : String) : Executor Unit where
  engine
  now _ := 0
  ping s := (p.alive, s)
  execute sql s := ((p.answer sql).mapError (·.message), s)

end Playbook

end SchemaSeed.Database
