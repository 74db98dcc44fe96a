import SchemaSeed.Database.Failure

/-!
# Trying again

Something that can fail is tried until it succeeds, with a pause after each failure, as
long as the pause ends before a deadline. Time passes in each pause, so the tries come to
an end.
-/

namespace SchemaSeed.Database

/-- The end of the clock, in nanoseconds: it counts the seconds in a signed integer of 64
bits. -/
def clockEnd : Nat := 9_223_372_036_854_775_808 * 1_000_000_000

/-- Something that may be tried again. The clock does not go back during an attempt, and a
pause takes at least the time of the delay. -/
structure Endeavour (σ α : Type) where
  now : σ → Nat
  delay : Nat
  attempt : σ → Except Setback α × σ
  pause : σ → σ
  delay_pos : 0 < delay
  now_attempt : ∀ s, now s ≤ now (attempt s).2
  now_pause : ∀ s, delay + now s ≤ now (pause s)

/-- How an endeavour ended, and the failures that were followed by another attempt. The
attempts are numbered in 32 bits. -/
structure Tries (σ α : Type) where
  result : Except Setback α
  state : σ
  retries : List (UInt32 × Failure)

/-- Tries until an attempt succeeds, is interrupted, or fails when a pause would last to the
deadline. Whether it would is found out by the end of the pause, which the clock has to show.
`number` is that of the first attempt. -/
def Endeavour.tryUntil (e : Endeavour σ α) (deadline : Nat) (number : UInt32) (s : σ) :
    Tries σ α :=
  match h : e.attempt s with
  | (.error (.failure f), s') =>
    if clockEnd ≤ e.delay + e.now s' then ⟨.error (.interruption .clockOverflow), s', []⟩
    else if e.delay + e.now s' < deadline then
      let t := e.tryUntil deadline (number + 1) (e.pause s')
      { t with retries := (number, f) :: t.retries }
    else ⟨.error (.failure f), s', []⟩
  | (result, s') => ⟨result, s', []⟩
termination_by deadline - e.now s
decreasing_by
  have hattempt := e.now_attempt s
  rw [h] at hattempt
  have := e.now_pause s'
  have := e.delay_pos
  simp only at *
  omega

end SchemaSeed.Database
