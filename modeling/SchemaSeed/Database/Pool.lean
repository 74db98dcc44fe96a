import SchemaSeed.Database.Retry
import SchemaSeed.Database.Server

/-!
# Opening connections

Opening a pool makes one connection. A server that is too busy, or not there yet, is asked
again after ever longer naps until the acquire timeout; any other refusal is final. On top
of that, `connectWhenReady` opens pools until the ready timeout. All of this may happen
under a limit, the moment at which the work is broken off.
-/

namespace SchemaSeed.Database

/-- The moment after a number of seconds, if the clock can show it. Past the end of the clock there
is none. -/
def deadlineAfter (now seconds : Nat) : Option Nat :=
  let deadline := 1_000_000_000 * seconds + now
  if deadline < clockEnd then some deadline else none

variable {σ : Type} (server : Server σ)

/-- Waits for an answer that does not come: up to the deadline, or up to the limit if that is not
later. -/
def waitUntil (limit : Option Nat) (deadline : Nat) (s : σ) : Setback × σ :=
  match limit.filter (· ≤ deadline) with
  | some moment => (.interruption .timeUp, server.sleep (moment - server.now s) s)
  | none => (.failure .poolTimedOut, server.sleep (deadline - server.now s) s)

theorem now_le_waitUntil (limit : Option Nat) (deadline : Nat) (s : σ) :
    server.now s ≤ server.now (waitUntil server limit deadline s).2 := by
  unfold waitUntil
  split
  · exact Nat.le_trans (Nat.le_add_left _ _) (server.now_sleep _ s)
  · exact Nat.le_trans (Nat.le_add_left _ _) (server.now_sleep _ s)

def firstNap : Nat := 10_000_000

/-- Connects until `deadline`. A refusal that may pass is followed by a nap and another attempt. The
next nap takes `nap` nanoseconds, but not more than `longest`, and the one after it twice as long.
-/
def connectUntil (connect : Connect) (limit : Option Nat) (deadline longest nap : Nat)
    (s : σ) : Except Setback Unit × σ :=
  if server.isTimeUp limit s then (.error (.interruption .timeUp), s)
  else if deadline ≤ server.now s then (.error (.failure .poolTimedOut), s)
  else
    match _h : server.greet connect s with
    | (.accepted, s') =>
      (if server.isTimeUp limit s' then .error (.interruption .timeUp) else .ok (), s')
    | (.refused f, s') =>
      if f.isTransient then
        connectUntil connect limit deadline longest (nap * 2)
          (server.sleep (max 1 (min nap longest)) s')
      else
        (.error (if server.isTimeUp limit s' then .interruption .timeUp else .failure f), s')
    | (.silent, s') =>
      let (setback, s'') := waitUntil server limit deadline s'
      (.error setback, s'')
termination_by deadline - server.now s
decreasing_by
  have hgreet := server.now_greet connect s
  have hsleep := server.now_sleep (max 1 (min nap longest)) s'
  rw [_h] at hgreet
  simp only at *
  omega

/-- No time is taken back while connecting. By induction on the attempts, with one case for each
greeting. -/
theorem now_le_connectUntil (connect : Connect) (limit : Option Nat)
    (deadline longest nap : Nat) (s : σ) :
    server.now s ≤ server.now (connectUntil server connect limit deadline longest nap s).2 := by
  fun_induction connectUntil server connect limit deadline longest nap s with
  | case1 => exact Nat.le_refl _
  | case2 => exact Nat.le_refl _
  | case3 nap s _ _ s' h =>
    have := server.now_greet connect s
    rw [h] at this
    exact this
  | case4 nap s _ _ f s' h _ ih =>
    have hgreet := server.now_greet connect s
    have hsleep := server.now_sleep (max 1 (min nap longest)) s'
    rw [h] at hgreet
    simp only at *
    omega
  | case5 nap s _ _ f s' h =>
    have := server.now_greet connect s
    rw [h] at this
    exact this
  | case6 nap s _ _ s' h setback s'' h2 =>
    have hgreet := server.now_greet connect s
    rw [h] at hgreet
    have hwait := now_le_waitUntil server limit deadline s'
    rw [h2] at hwait
    exact Nat.le_trans hgreet hwait

/-- Opens a pool, with one connection to begin with. A pool without connections never has one to
give, and is waited for in vain. -/
def openPool (connect : Connect) (maxConnections acquireTimeout : Nat) (limit : Option Nat)
    (s : σ) : Except Setback Unit × σ :=
  match deadlineAfter (server.now s) acquireTimeout with
  | none => (.error (.interruption .clockOverflow), s)
  | some deadline =>
    if maxConnections = 0 then
      let (setback, s') := waitUntil server limit deadline s
      (.error setback, s')
    else
      connectUntil server connect limit deadline ((deadline - server.now s) / 5) firstNap s

theorem now_le_openPool (connect : Connect) (maxConnections acquireTimeout : Nat)
    (limit : Option Nat) (s : σ) :
    server.now s ≤
      server.now (openPool server connect maxConnections acquireTimeout limit s).2 := by
  unfold openPool
  generalize deadlineAfter (server.now s) acquireTimeout = deadline
  generalize firstNap = nap
  cases deadline with
  | none => exact Nat.le_refl _
  | some deadline =>
    simp only
    split
    · exact now_le_waitUntil server limit _ s
    · exact now_le_connectUntil server connect limit _ _ _ s

/-- The nanoseconds between two attempts: a quarter of a second. -/
def retryDelay : Nat := 250_000_000

theorem retryDelay_pos : 0 < retryDelay := by unfold retryDelay; omega

/-- Opening a pool, again and again. Each attempt has the whole acquire timeout. -/
def opening (connect : Connect) (options : Options) (limit : Option Nat) :
    Endeavour σ Unit where
  now := server.now
  delay := retryDelay
  delay_pos := retryDelay_pos
  attempt := openPool server connect options.maxConnections options.acquireTimeout limit
  pause := server.sleep retryDelay
  now_attempt := now_le_openPool server connect _ _ limit
  now_pause := server.now_sleep retryDelay

/-- Opens a pool as soon as the server is ready, and logs each retry. If the clock cannot show the
deadline, there is no attempt. -/
def connectWhenReady (connect : Connect) (options : Options) (limit : Option Nat)
    (j : Journal σ) : Except Setback Unit × Journal σ :=
  match deadlineAfter (server.now j.state) options.readyTimeout with
  | none => (.error (.interruption .clockOverflow), j)
  | some deadline =>
    let t := (opening server connect options limit).tryUntil deadline 1 j.state
    (t.result, { j with
      state := t.state
      events := j.events ++ t.retries.map fun (number, f) => .connectRetry number f.text })

end SchemaSeed.Database
