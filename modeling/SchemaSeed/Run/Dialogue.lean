import SchemaSeed.Event

/-!
# Dialogues with a database

A dialogue is a program that talks to one database: it logs events, reads the clock, asks
whether the database is alive, and issues statements, and what it does next may depend on
the answers. It says nothing about how the answers come about, so one dialogue is carried
out by an executor, against a server, or under a time limit.
-/

namespace SchemaSeed

inductive Dialogue (α : Type) where
  | done (result : α)
  | log (event : Event) (next : Dialogue α)
  /-- Reads a clock that counts nanoseconds. -/
  | clock (next : Nat → Dialogue α)
  | ping (next : Except String Unit → Dialogue α)
  /-- Issues a statement; the answer is the number of rows it affected. -/
  | execute (sql : String) (next : Except String UInt64 → Dialogue α)

namespace Dialogue

/-- Goes on with `f` when the first dialogue is done, on the same database and with the same clock.
-/
def bind : Dialogue α → (α → Dialogue β) → Dialogue β
  | .done a, f => f a
  | .log e k, f => .log e (bind k f)
  | .clock k, f => .clock fun n => bind (k n) f
  | .ping k, f => .ping fun answer => bind (k answer) f
  | .execute sql k, f => .execute sql fun answer => bind (k answer) f

instance : Monad Dialogue where
  pure := .done
  bind := bind

def say (e : Event) : Dialogue Unit := .log e (.done ())

def time : Dialogue Nat := .clock .done

def checkAlive : Dialogue (Except String Unit) := .ping .done

def ask (sql : String) : Dialogue (Except String UInt64) := .execute sql .done

theorem bind_done (d : Dialogue α) : bind d .done = d := by
  induction d with
  | done => rfl
  | log e k ih => simp only [bind, ih]
  | clock k ih => simp only [bind, ih]
  | ping k ih => simp only [bind, ih]
  | execute sql k ih => simp only [bind, ih]

theorem bind_assoc (d : Dialogue α) (f : α → Dialogue β) (g : β → Dialogue γ) :
    bind (bind d f) g = bind d fun a => bind (f a) g := by
  induction d with
  | done => rfl
  | log e k ih => simp only [bind, ih]
  | clock k ih => simp only [bind, ih]
  | ping k ih => simp only [bind, ih]
  | execute sql k ih => simp only [bind, ih]

instance : LawfulMonad Dialogue :=
  LawfulMonad.mk' Dialogue bind_done (fun _ _ => rfl) bind_assoc

end Dialogue

end SchemaSeed
