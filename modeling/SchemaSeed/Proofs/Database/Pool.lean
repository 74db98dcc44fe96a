import SchemaSeed.Database.Pool

/-!
# Opening connections, with and without a limit

Without a limit the time is never up. Under a limit that is not met, opening a connection
goes as it goes without one. And of two servers that tell the time alike and greet a client
alike, the client cannot tell which one it connects to.
-/

namespace SchemaSeed.Database

/-! ## Single steps -/

/-- One attempt, and what comes after it. The time is read when the attempt has failed, and the
pause is made only if there is time left after it. -/
theorem Endeavour.tryUntil_eq (e : Endeavour σ α) (deadline : Nat) (number : UInt32) (s : σ) :
    e.tryUntil deadline number s =
      match e.attempt s with
      | (.error (.failure f), s') =>
        if clockEnd ≤ e.delay + e.now s' then ⟨.error (.interruption .clockOverflow), s', []⟩
        else if e.delay + e.now s' < deadline then
          let t := e.tryUntil deadline (number + 1) (e.pause s')
          { t with retries := (number, f) :: t.retries }
        else ⟨.error (.failure f), s', []⟩
      | (result, s') => ⟨result, s', []⟩ := by
  rw [tryUntil]
  split
  · next h => rw [h]
  · next result s' hne h =>
    rw [h]
    split
    · next heq => cases heq; exact (hne _ rfl).elim
    · next heq => cases heq; rfl

variable {σ : Type} (server : Server σ)

theorem not_isTimeUp_none (s : σ) : server.isTimeUp none s = false := rfl

/-- One greeting, and what comes after it. The limit is looked at before and after, since a request
may be given up at any moment in between. -/
theorem connectUntil_eq (connect : Connect) (limit : Option Nat) (deadline longest nap : Nat)
    (s : σ) :
    connectUntil server connect limit deadline longest nap s =
      if server.isTimeUp limit s then (.error (.interruption .timeUp), s)
      else if deadline ≤ server.now s then (.error (.failure .poolTimedOut), s)
      else
        match server.greet connect s with
        | (.accepted, s') =>
          (if server.isTimeUp limit s' then .error (.interruption .timeUp) else .ok (), s')
        | (.refused f, s') =>
          if f.isTransient then
            connectUntil server connect limit deadline longest (nap * 2)
              (server.sleep (max 1 (min nap longest)) s')
          else
            (.error (if server.isTimeUp limit s' then .interruption .timeUp else .failure f), s')
        | (.silent, s') =>
          let (setback, s'') := waitUntil server limit deadline s'
          (.error setback, s'') := by
  rw [connectUntil]
  repeat' split
  all_goals simp_all

/-! ## Without a limit -/

/-- Without a limit, no connection is given up for one. By induction on the greetings. -/
theorem connectUntil_none_ne_timeUp (connect : Connect) (deadline longest nap : Nat) (s : σ) :
    (connectUntil server connect none deadline longest nap s).1 ≠
      .error (.interruption .timeUp) := by
  -- A silent server is waited for until the deadline, which is all that there is.
  fun_induction connectUntil server connect none deadline longest nap s with
  | case1 nap s hup => cases hup
  | case2 => intro h; cases h
  | case3 nap s hup hdeadline s' hgreet => intro h; cases h
  | case4 nap s hup hdeadline f s' hgreet htransient ih => exact ih
  | case5 nap s hup hdeadline f s' hgreet hfinal => intro h; cases h
  | case6 nap s hup hdeadline s' hgreet setback s'' hwait => cases hwait; intro h; cases h

theorem openPool_none_ne_timeUp (connect : Connect) (maxConnections acquireTimeout : Nat)
    (s : σ) :
    (openPool server connect maxConnections acquireTimeout none s).1 ≠
      .error (.interruption .timeUp) := by
  unfold openPool
  generalize deadlineAfter (server.now s) acquireTimeout = deadline
  cases deadline with
  | none => intro h; cases h
  | some deadline =>
    dsimp only
    split
    · intro h; cases h
    · exact connectUntil_none_ne_timeUp server connect _ _ _ s

/-- The time is up while trying again only if it is up during an attempt. The pauses are not
interrupted. -/
theorem Endeavour.tryUntil_ne_timeUp (e : Endeavour σ α)
    (hattempt : ∀ s, (e.attempt s).1 ≠ .error (.interruption .timeUp)) (deadline : Nat)
    (number : UInt32) (s : σ) :
    (e.tryUntil deadline number s).result ≠ .error (.interruption .timeUp) := by
  fun_induction Endeavour.tryUntil e deadline number s with
  | case1 number s f s' hfailed hclock => intro h; cases h
  | case2 number s f s' hfailed hclock htime t ih => exact ih
  | case3 number s f s' hfailed hclock htime => intro h; cases h
  | case4 number s result s' hne hend =>
    have h := hattempt s
    rwa [hend] at h

/-- So without a limit, the attempts end with a connection, a failure or a deadline that the clock
cannot show. -/
theorem connectWhenReady_none_ne_timeUp (connect : Connect) (options : Options)
    (j : Journal σ) :
    (connectWhenReady server connect options none j).1 ≠ .error (.interruption .timeUp) := by
  unfold connectWhenReady
  split
  · intro h; cases h
  · exact Endeavour.tryUntil_ne_timeUp _
      (openPool_none_ne_timeUp server connect options.maxConnections options.acquireTimeout) _ _ _

/-! ## Under a limit that is not met -/

/-- A wait that the limit did not end is as long as it is without one. -/
theorem waitUntil_of_ne_timeUp {limit : Option Nat} {deadline : Nat} {s : σ}
    (h : (waitUntil server limit deadline s).1 ≠ .interruption .timeUp) :
    waitUntil server limit deadline s = waitUntil server none deadline s := by
  unfold waitUntil at h ⊢
  split
  · next moment hmoment => rw [hmoment] at h; exact absurd rfl h
  · rfl

/-- A limit that is not met makes no difference. By induction on the greetings, each of which has
its own moments at which the time could have been up. -/
theorem connectUntil_of_ne_timeUp {connect : Connect} {limit : Option Nat}
    {deadline longest nap : Nat} {s : σ}
    (h : (connectUntil server connect limit deadline longest nap s).1 ≠
      .error (.interruption .timeUp)) :
    connectUntil server connect limit deadline longest nap s =
      connectUntil server connect none deadline longest nap s := by
  -- One case for each greeting. A time that is up at any moment would be the result.
  fun_induction connectUntil server connect limit deadline longest nap s with
  | case1 => exact absurd rfl h
  | case2 nap s hup hdeadline =>
    rw [connectUntil_eq, not_isTimeUp_none, if_neg Bool.false_ne_true, if_pos hdeadline]
  | case3 nap s hup hdeadline s' hgreet =>
    have hup' : server.isTimeUp limit s' = false := by
      rw [Bool.eq_false_iff]
      exact fun hup => h (if_pos hup)
    rw [connectUntil_eq, not_isTimeUp_none, if_neg Bool.false_ne_true, if_neg hdeadline, hgreet]
    simp only [hup', not_isTimeUp_none, Bool.false_eq_true, if_false]
  | case4 nap s hup hdeadline f s' hgreet htransient ih =>
    rw [connectUntil_eq server connect none deadline longest nap s, not_isTimeUp_none,
      if_neg Bool.false_ne_true, if_neg hdeadline, hgreet]
    simp only [htransient, if_true]
    exact ih h
  | case5 nap s hup hdeadline f s' hgreet hfinal =>
    have hup' : server.isTimeUp limit s' = false := by
      rw [Bool.eq_false_iff]
      exact fun hup => h (congrArg Except.error (if_pos hup))
    rw [connectUntil_eq, not_isTimeUp_none, if_neg Bool.false_ne_true, if_neg hdeadline, hgreet]
    simp only [hfinal, hup', not_isTimeUp_none, Bool.false_eq_true, if_false]
  | case6 nap s hup hdeadline s' hgreet setback s'' hwait =>
    rw [connectUntil_eq, not_isTimeUp_none, if_neg Bool.false_ne_true, if_neg hdeadline, hgreet]
    have hne : (waitUntil server limit deadline s').1 ≠ .interruption .timeUp := by
      rw [hwait]
      intro hup
      exact h (congrArg Except.error hup)
    simp only [← waitUntil_of_ne_timeUp server hne, hwait]

/-- The same for the pool, whose other faults do not depend on the limit. -/
theorem openPool_of_ne_timeUp {connect : Connect} {maxConnections acquireTimeout : Nat}
    {limit : Option Nat} {s : σ}
    (h : (openPool server connect maxConnections acquireTimeout limit s).1 ≠
      .error (.interruption .timeUp)) :
    openPool server connect maxConnections acquireTimeout limit s =
      openPool server connect maxConnections acquireTimeout none s := by
  unfold openPool at h ⊢
  generalize deadlineAfter (server.now s) acquireTimeout = deadline at h ⊢
  -- A deadline that the clock cannot show breaks the attempt off with a limit or without.
  cases deadline with
  | none => rfl
  | some deadline =>
    dsimp only at h ⊢
    split at h
    · next hmax =>
      have hne : (waitUntil server limit deadline s).1 ≠ .interruption .timeUp :=
        fun hup => h (congrArg Except.error hup)
      rw [if_pos hmax, if_pos hmax, waitUntil_of_ne_timeUp server hne]
    · next hmax =>
      rw [if_neg hmax, if_neg hmax]
      exact connectUntil_of_ne_timeUp server h

/-- Two endeavours that differ only in attempts that are interrupted. If the first one is not, both
make the same attempts. -/
theorem Endeavour.tryUntil_congr (e e' : Endeavour σ α) (hnow : e'.now = e.now)
    (hdelay : e'.delay = e.delay) (hpause : e'.pause = e.pause) {i : Interruption}
    (hattempt : ∀ s, (e.attempt s).1 ≠ .error (.interruption i) → e'.attempt s = e.attempt s)
    {deadline : Nat} {number : UInt32} {s : σ}
    (h : (e.tryUntil deadline number s).result ≠ .error (.interruption i)) :
    e'.tryUntil deadline number s = e.tryUntil deadline number s := by
  have hfails : ∀ {s s' : σ} {f : Failure}, e.attempt s = (.error (.failure f), s') →
      e'.attempt s = e.attempt s := fun h => hattempt _ (by rw [h]; intro h; cases h)
  fun_induction Endeavour.tryUntil e deadline number s with
  | case1 number s f s' hfailed hclock =>
    rw [tryUntil_eq e', hfails hfailed, hfailed, hnow, hdelay]
    simp only [if_pos hclock]
  | case2 number s f s' hfailed hclock htime t ih =>
    rw [tryUntil_eq e', hfails hfailed, hfailed, hnow, hdelay, hpause]
    simp only [if_neg hclock, if_pos htime]
    rw [ih h]
  | case3 number s f s' hfailed hclock htime =>
    rw [tryUntil_eq e', hfails hfailed, hfailed, hnow, hdelay]
    simp only [if_neg hclock, if_neg htime]
  -- The last attempt was not interrupted, so the other endeavour makes the same one.
  | case4 number s result s' hne hend =>
    have hsame := hattempt s (by rw [hend]; exact h)
    rw [tryUntil_eq e', hsame, hend]
    split
    · next f s'' heq => cases heq; exact (hne _ rfl).elim
    · next heq => cases heq; rfl

/-- And so the attempts to connect, as far as they are logged, are those without a limit. -/
theorem connectWhenReady_of_ne_timeUp {connect : Connect} {options : Options}
    {limit : Option Nat} {j : Journal σ}
    (h : (connectWhenReady server connect options limit j).1 ≠ .error (.interruption .timeUp)) :
    connectWhenReady server connect options limit j =
      connectWhenReady server connect options none j := by
  unfold connectWhenReady at h ⊢
  generalize deadlineAfter (server.now j.state) options.readyTimeout = deadline at h ⊢
  cases deadline with
  | none => rfl
  | some deadline =>
    dsimp only at h ⊢
    have hattempt : ∀ s, ((opening server connect options limit).attempt s).1 ≠
        .error (.interruption .timeUp) →
        (opening server connect options none).attempt s =
          (opening server connect options limit).attempt s :=
      fun s hne => (openPool_of_ne_timeUp server hne).symm
    -- The limit is in the attempts only; clock and pauses of both endeavours are the same.
    have htries := Endeavour.tryUntil_congr (opening server connect options limit)
      (opening server connect options none) rfl rfl rfl hattempt h
    rw [htries]

/-! ## Two servers -/

section Twins

variable {server} {server' : Server σ} {connect connect' : Connect}
  (hnow : server'.now = server.now) (hsleep : server'.sleep = server.sleep)
  (hgreet : server'.greet connect' = server.greet connect)

include hnow

theorem isTimeUp_congr (limit : Option Nat) (s : σ) :
    server'.isTimeUp limit s = server.isTimeUp limit s := by
  rw [Server.isTimeUp, Server.isTimeUp, hnow]

include hsleep

theorem waitUntil_congr (limit : Option Nat) (deadline : Nat) (s : σ) :
    waitUntil server' limit deadline s = waitUntil server limit deadline s := by
  rw [waitUntil, waitUntil, hnow, hsleep]

include hgreet

/-- Two servers that greet alike and whose clocks agree are the same to one who connects. -/
theorem connectUntil_congr (limit : Option Nat) (deadline longest nap : Nat) (s : σ) :
    connectUntil server' connect' limit deadline longest nap s =
      connectUntil server connect limit deadline longest nap s := by
  -- In each case the clock is asked the same questions, and so is the server.
  fun_induction connectUntil server connect limit deadline longest nap s with
  | case1 nap s hup =>
    rw [connectUntil_eq, isTimeUp_congr hnow, if_pos hup]
  | case2 nap s hup hdeadline =>
    rw [connectUntil_eq, isTimeUp_congr hnow, if_neg hup, hnow, if_pos hdeadline]
  | case3 nap s hup hdeadline s' h =>
    rw [connectUntil_eq, isTimeUp_congr hnow, if_neg hup, hnow, if_neg hdeadline, hgreet, h]
    simp only [isTimeUp_congr hnow]
  | case4 nap s hup hdeadline f s' h htransient ih =>
    rw [connectUntil_eq, isTimeUp_congr hnow, if_neg hup, hnow, if_neg hdeadline, hgreet, h]
    simp only [htransient, if_true, hsleep]
    exact ih
  | case5 nap s hup hdeadline f s' h hfinal =>
    rw [connectUntil_eq, isTimeUp_congr hnow, if_neg hup, hnow, if_neg hdeadline, hgreet, h]
    simp only [hfinal, isTimeUp_congr hnow, Bool.false_eq_true, if_false]
  | case6 nap s hup hdeadline s' h setback s'' hwait =>
    rw [connectUntil_eq, isTimeUp_congr hnow, if_neg hup, hnow, if_neg hdeadline, hgreet, h]
    simp only [waitUntil_congr hnow hsleep, hwait]

theorem openPool_congr (maxConnections acquireTimeout : Nat) (limit : Option Nat) (s : σ) :
    openPool server' connect' maxConnections acquireTimeout limit s =
      openPool server connect maxConnections acquireTimeout limit s := by
  unfold openPool
  simp only [hnow, waitUntil_congr hnow hsleep, connectUntil_congr hnow hsleep hgreet]

/-- The attempts are logged in the same words, since the failures are the same. -/
theorem connectWhenReady_congr (options : Options) (limit : Option Nat) (j : Journal σ) :
    connectWhenReady server' connect' options limit j =
      connectWhenReady server connect options limit j := by
  have hattempt : (opening server' connect' options limit).attempt =
      (opening server connect options limit).attempt :=
    funext fun s => openPool_congr hnow hsleep hgreet _ _ limit s
  have htries : opening server' connect' options limit = opening server connect options limit := by
    rw [opening, opening, Endeavour.mk.injEq]
    exact ⟨hnow, rfl, hattempt, by rw [hsleep]⟩
  unfold connectWhenReady
  rw [hnow, htries]

end Twins

end SchemaSeed.Database
