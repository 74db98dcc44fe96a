import SchemaSeed.Run.Executor

/-!
# Dialogues that ask the same

Two dialogues are alike if they put the same questions to the database, whatever it answers, and
their results are related in the end. What they log does not count, and the clock may show each
of them what it will. So the database cannot tell them apart (`Dialogue.Alike.perform`), and a
dialogue in two parts is alike to another if the parts are (`Dialogue.Alike.bind`).
-/

namespace SchemaSeed

variable {α β γ δ : Type}

namespace Dialogue

/-- The dialogues ask the same questions, and after the same answers they go on alike, up to related
results. What they tell may differ, and so may what the clock shows to them. -/
inductive Alike (R : α → β → Prop) : Dialogue α → Dialogue β → Prop where
  | done {a : α} {b : β} (h : R a b) : Alike R (.done a) (.done b)
  | logLeft {d : Dialogue α} {d' : Dialogue β} (e : Event) (h : Alike R d d') :
    Alike R (.log e d) d'
  | logRight {d : Dialogue α} {d' : Dialogue β} (e : Event) (h : Alike R d d') :
    Alike R d (.log e d')
  | clock {k : Nat → Dialogue α} {k' : Nat → Dialogue β} (h : ∀ n n', Alike R (k n) (k' n')) :
    Alike R (.clock k) (.clock k')
  | ping {k : Except String Unit → Dialogue α} {k' : Except String Unit → Dialogue β}
    (h : ∀ answer, Alike R (k answer) (k' answer)) : Alike R (.ping k) (.ping k')
  | execute {k : Except String UInt64 → Dialogue α} {k' : Except String UInt64 → Dialogue β}
    (sql : String) (h : ∀ answer, Alike R (k answer) (k' answer)) :
    Alike R (.execute sql k) (.execute sql k')

namespace Alike

variable {R : α → β → Prop} {S : γ → δ → Prop} {d : Dialogue α} {d' : Dialogue β}

/-- Dialogues in two parts are alike if their parts are. By induction on the likeness of the first
parts. -/
theorem bind {f : α → Dialogue γ} {g : β → Dialogue δ} (h : Alike R d d')
    (hnext : ∀ a b, R a b → Alike S (f a) (g b)) : Alike S (d >>= f) (d' >>= g) := by
  change Alike S (d.bind f) (d'.bind g)
  induction h with
  | done h => exact hnext _ _ h
  | logLeft e _ ih => exact .logLeft e ih
  | logRight e _ ih => exact .logRight e ih
  | clock _ ih => exact .clock ih
  | ping _ ih => exact .ping ih
  | execute sql _ ih => exact .execute sql ih

/-! ## First steps -/

theorem pure {a : α} {b : β} (h : R a b) : Alike R (Pure.pure a) (Pure.pure b) := .done h

/-- An event on one side does not break the likeness; on which side it is does not matter. -/
theorem say_left {f : Unit → Dialogue α} (e : Event) (h : Alike R (f ()) d') :
    Alike R (Dialogue.say e >>= f) d' := .logLeft e h

theorem say_right {f : Unit → Dialogue β} (e : Event) (h : Alike R d (f ())) :
    Alike R d (Dialogue.say e >>= f) := .logRight e h

/-- The clock is looked at on both sides, and what it shows there may differ. -/
theorem time {f : Nat → Dialogue α} {g : Nat → Dialogue β} (h : ∀ n n', Alike R (f n) (g n')) :
    Alike R (Dialogue.time >>= f) (Dialogue.time >>= g) := .clock h

theorem checkAlive {f : Except String Unit → Dialogue α} {g : Except String Unit → Dialogue β}
    (h : ∀ answer, Alike R (f answer) (g answer)) :
    Alike R (Dialogue.checkAlive >>= f) (Dialogue.checkAlive >>= g) := .ping h

theorem ask {f : Except String UInt64 → Dialogue α} {g : Except String UInt64 → Dialogue β}
    (sql : String) (h : ∀ answer, Alike R (f answer) (g answer)) :
    Alike R (Dialogue.ask sql >>= f) (Dialogue.ask sql >>= g) := .execute sql h

end Alike

end Dialogue

def Executor.withClock {σ : Type} (x : Executor σ) (now : σ → Nat) : Executor σ := { x with now }

/-- Alike dialogues issue the same statements, and leave the database in the same state. By
induction on the likeness: an executor gives the same answer to the same question. -/
theorem Dialogue.Alike.perform {σ : Type} {R : α → β → Prop} {d : Dialogue α} {d' : Dialogue β}
    (h : d.Alike R d') (x : Executor σ) (now : σ → Nat) (s : σ) :
    let t := x.perform d s
    let t' := (x.withClock now).perform d' s
    R t.result t'.result ∧ t'.issued = t.issued ∧ t'.state = t.state := by
  induction h generalizing s with
  | done h => exact ⟨h, rfl, rfl⟩
  | logLeft e _ ih => exact ih s
  | logRight e _ ih => exact ih s
  | clock _ ih => exact ih _ _ s
  | ping _ ih => exact ih _ _
  | execute sql _ ih =>
    obtain ⟨hresult, hissued, hstate⟩ := ih (x.execute sql s).1 (x.execute sql s).2
    exact ⟨hresult, congrArg _ hissued, hstate⟩

end SchemaSeed
