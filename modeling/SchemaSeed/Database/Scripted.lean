import SchemaSeed.Database.Playbook
import SchemaSeed.Database.Server

/-!
# Servers that follow a playbook

Besides what its databases answer, such a server is told whom it turns away and whom it
leaves waiting. It listens on a local socket. Time passes only while its clients wait.
-/

namespace SchemaSeed.Database

/-- Connections to databases whose name holds the fragment are turned away: the first
`count` of them, or all. -/
structure Refusal where
  fragment : String
  error : ServerError
  count : Option Nat

structure Scripted where
  playbook : Playbook
  /-- The directory of the socket. -/
  socket : String
  /-- The socket is missing. -/
  unreachable : Bool
  refusal : Option Refusal
  /-- Connections to databases whose name holds this fragment are never answered. -/
  silence : Option String

namespace Scripted

/-- How far the clock is, and how many connections were turned away. -/
structure State where
  now : Nat
  refused : Nat

/-- The refusal that applies to a connection to a database. -/
def refusalFor (sc : Scripted) (database : String) (s : State) : Option Refusal :=
  sc.refusal.filter fun r =>
    Text.contains database r.fragment && r.count.all fun count => s.refused < count

def greet (sc : Scripted) (connect : Connect) (s : State) : Greeting × State :=
  match connect.host with
  | .name _ => (.refused .connectionRefused, s)
  | .directory path =>
    if sc.unreachable || path ≠ sc.socket || connect.port ≠ 5432 then
      (.refused (.transport "No such file or directory (os error 2)"), s)
    else if sc.silence.any (Text.contains connect.databaseName) then (.silent, s)
    else
      match sc.refusalFor connect.databaseName s with
      | some r => (.refused (.answered r.error), { s with refused := s.refused + 1 })
      | none => (.accepted, s)

def answer (sc : Scripted) (sql : String) : Except ServerError UInt64 :=
  (sc.playbook.answer sql).map fun n =>
    if "INSERT".toList.isPrefixOf sql.toList then n else 0

theorem now_greet (sc : Scripted) (connect : Connect) (s : State) :
    (sc.greet connect s).2.now = s.now := by
  unfold greet
  repeat' split
  all_goals rfl

def server (sc : Scripted) : Server State where
  now := State.now
  sleep duration s := { s with now := duration + s.now }
  greet := sc.greet
  ping _ s := (sc.playbook.alive.mapError fun message => .answered ⟨message, "57P01"⟩, s)
  execute _ sql s := ((sc.answer sql).mapError .answered, s)
  now_sleep _ _ := Nat.le_refl _
  now_greet connect s := Nat.le_of_eq (sc.now_greet connect s).symm

end Scripted

end SchemaSeed.Database
