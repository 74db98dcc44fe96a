import SchemaSeed.Run.Seeding

/-!
# Executors

An executor answers the questions of a dialogue from a state of its own: everything it was
asked before may have left its mark there. Carrying out a dialogue gives its result, what
was logged, and the statements with their answers.
-/

namespace SchemaSeed

structure Executor (σ : Type) where
  /-- The name of the database engine. -/
  engine : String
  /-- The clock, in nanoseconds. -/
  now : σ → Nat
  ping : σ → Except String Unit × σ
  execute : String → σ → Except String UInt64 × σ

structure Issued where
  sql : String
  answer : Except String UInt64

def Issued.accepted (i : Issued) : Bool := i.answer.isOk

/-- What came of a dialogue. Events and statements are kept apart, each in their own order. -/
structure Trace (σ α : Type) where
  result : α
  /-- The state that the executor was left in. -/
  state : σ
  events : List Event
  issued : List Issued

namespace Executor

/-- Carries out a dialogue from a state of the executor, which answers one question after another.
-/
def perform (x : Executor σ) : Dialogue α → σ → Trace σ α
  | .done a, s => ⟨a, s, [], []⟩
  | .log e k, s =>
    let t := x.perform k s
    { t with events := e :: t.events }
  | .clock k, s => x.perform (k (x.now s)) s
  | .ping k, s =>
    let (answer, s) := x.ping s
    x.perform (k answer) s
  | .execute sql k, s =>
    let (answer, s) := x.execute sql s
    let t := x.perform (k answer) s
    { t with issued := ⟨sql, answer⟩ :: t.issued }

def run (x : Executor σ) (schema mockData : String) (s : σ) : Trace σ Outcome :=
  x.perform (Run.run x.engine schema mockData) s

/-- A dialogue in two parts is carried out in two parts, the second from the state in which the
first has left the executor. -/
theorem perform_bind (x : Executor σ) (d : Dialogue α) (f : α → Dialogue β) (s : σ) :
    x.perform (d >>= f) s =
      let t := x.perform d s
      let u := x.perform (f t.result) t.state
      ⟨u.result, u.state, t.events ++ u.events, t.issued ++ u.issued⟩ := by
  change x.perform (d.bind f) s = _
  induction d generalizing s with
  | done => rfl
  | log e k ih => simp only [Dialogue.bind, perform, ih, List.cons_append]
  | clock k ih => simp only [Dialogue.bind, perform, ih]
  | ping k ih => simp only [Dialogue.bind, perform, ih]
  | execute sql k ih => simp only [Dialogue.bind, perform, ih, List.cons_append]

end Executor

end SchemaSeed
