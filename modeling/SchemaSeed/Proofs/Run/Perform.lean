import SchemaSeed.Run.Executor

/-!
# Carrying out a dialogue step by step

What an executor makes of the first step of a dialogue. With these equations a run is taken
apart from the front, and `perform_bind` takes it apart where one of its parts ends. The
errors among the events of a dialogue are told by `loggedErrors`.
-/

namespace SchemaSeed

namespace Executor

variable {σ : Type} (x : Executor σ) (s : σ)

@[simp] theorem perform_pure (a : α) : x.perform (pure a) s = ⟨a, s, [], []⟩ := rfl

@[simp] theorem perform_say_bind (e : Event) (f : Unit → Dialogue α) :
    x.perform (Dialogue.say e >>= f) s =
      let t := x.perform (f ()) s
      ⟨t.result, t.state, e :: t.events, t.issued⟩ := rfl

@[simp] theorem perform_time_bind (f : Nat → Dialogue α) :
    x.perform (Dialogue.time >>= f) s = x.perform (f (x.now s)) s := rfl

@[simp] theorem perform_checkAlive_bind (f : Except String Unit → Dialogue α) :
    x.perform (Dialogue.checkAlive >>= f) s = x.perform (f (x.ping s).1) (x.ping s).2 := rfl

@[simp] theorem perform_ask_bind (sql : String) (f : Except String UInt64 → Dialogue α) :
    x.perform (Dialogue.ask sql >>= f) s =
      let t := x.perform (f (x.execute sql s).1) (x.execute sql s).2
      ⟨t.result, t.state, t.events, ⟨sql, (x.execute sql s).1⟩ :: t.issued⟩ := rfl

/-- An error is entered and logged, and the database is not asked. -/
@[simp] theorem perform_record_bind (l : Ledger) (e : SeedError) (f : Ledger → Dialogue α) :
    x.perform (l.record e >>= f) s =
      let t := x.perform (f { l with report := l.report.record e }) s
      ⟨t.result, t.state, .runError e.isFatal e.message :: t.events, t.issued⟩ := rfl

@[simp] theorem perform_map (f : α → β) (d : Dialogue α) :
    x.perform (f <$> d) s =
      let t := x.perform d s
      ⟨f t.result, t.state, t.events, t.issued⟩ := by
  rw [map_eq_pure_bind, perform_bind]
  simp

end Executor

/-- The errors among the events: whether each is fatal, and its text. The other events say what was
done, and are counted in another place. -/
def loggedErrors (events : List Event) : List (Bool × String) :=
  events.filterMap fun
    | .runError fatal text => some (fatal, text)
    | _ => none

@[simp] theorem loggedErrors_nil : loggedErrors [] = [] := rfl

@[simp] theorem loggedErrors_append (front back : List Event) :
    loggedErrors (front ++ back) = loggedErrors front ++ loggedErrors back :=
  List.filterMap_append

@[simp] theorem loggedErrors_runError (fatal : Bool) (text : String) (events : List Event) :
    loggedErrors (.runError fatal text :: events) = (fatal, text) :: loggedErrors events := rfl

@[simp] theorem loggedErrors_of_ne {e : Event} (events : List Event)
    (h : ∀ fatal text, e ≠ .runError fatal text) :
    loggedErrors (e :: events) = loggedErrors events := by
  cases e with
  | runError fatal text => exact absurd rfl (h fatal text)
  | _ => rfl

end SchemaSeed
