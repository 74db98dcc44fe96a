/-!
# Attempts that go alike

An attempt that goes on with the result of another succeeds only if both do. Two attempts go
alike when both fail for the same reason, or both succeed and the results are related. This
carries over to what is made of the results.
-/

namespace SchemaSeed

variable {ε : Type u} {α β γ δ : Type v}

/-- Two steps succeed only if the first one does, and the second one at its result. A computation in
`do` notation is taken apart with this, step by step. -/
theorem exists_of_bind_eq_ok {x : Except ε α} {f : α → Except ε β} {b : β}
    (h : x >>= f = .ok b) : ∃ a, x = .ok a ∧ f a = .ok b := by
  cases x with
  | error e => cases h
  | ok a => exact ⟨a, rfl, h⟩

/-- Two attempts fail with the same error, or both succeed with related results. -/
inductive GoAlike (r : α → β → Prop) : Except ε α → Except ε β → Prop where
  | error (e : ε) : GoAlike r (.error e) (.error e)
  | ok {a : α} {b : β} (h : r a b) : GoAlike r (.ok a) (.ok b)

namespace GoAlike

variable {r : α → β → Prop} {s : γ → δ → Prop} {x : Except ε α} {y : Except ε β}

/-- Attempts in two steps go alike if their first steps do, and the second ones at related results.
-/
theorem bind (h : GoAlike r x y) {f : α → Except ε γ} {g : β → Except ε δ}
    (hnext : ∀ a b, r a b → GoAlike s (f a) (g b)) : GoAlike s (x >>= f) (y >>= g) := by
  cases h with
  | error e => exact .error e
  | ok h => exact hnext _ _ h

/-- What is done in the same way does not have to be gone into. -/
theorem bind_same (x : Except ε α) {f : α → Except ε γ} {g : α → Except ε δ}
    (hnext : ∀ a, GoAlike s (f a) (g a)) : GoAlike s (x >>= f) (x >>= g) := by
  cases x with
  | error e => exact .error e
  | ok a => exact hnext a

/-- Errors are the same on both sides, and so are the errors that a function makes of them. -/
theorem mapError (h : GoAlike r x y) (f : ε → ε') : GoAlike r (x.mapError f) (y.mapError f) := by
  cases h with
  | error e => exact .error _
  | ok h => exact .ok h

/-- Attempts that agree after a function was applied to their results have results on which the
function agrees. -/
theorem of_map_eq {f : α → γ} {g : β → γ} (h : x.map f = y.map g) :
    GoAlike (fun a b => f a = g b) x y := by
  cases x with
  | error e =>
    cases y with
    | error e' => cases h; exact .error e
    | ok b => cases h
  | ok a =>
    cases y with
    | error e' => cases h
    | ok b => exact .ok (Except.ok.inj h)

end GoAlike

end SchemaSeed
