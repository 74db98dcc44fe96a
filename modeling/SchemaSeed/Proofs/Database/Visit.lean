import Mathlib.Data.List.Forall2
import SchemaSeed.Proofs.Database.Seeding

/-!
# The life of an ephemeral database

A visit is what requests and commands have in common: a database is created, there is a run
on it, and it is dropped. What the server receives in its course is known beforehand up to
the statements of the run, which all go to that database: first the one that creates it and
last the one that drops it. Only a deadline that the clock cannot show cuts a visit short,
and then the database is left behind.
-/

namespace SchemaSeed.Database

variable {σ : Type} (server : Server σ)

inductive Upshot where
  /-- There was no database. -/
  | unprovided (failure : Failure)
  | ended (outcome : Outcome)
  | brokenOff (interruption : Interruption)

/-- The moment at which the time for a run is up that begins now. -/
def limitAfter (timeout : Option Nat) (s : σ) : Option Nat :=
  timeout.map fun seconds => 1_000_000_000 * seconds + server.now s

/-- What is done with a database after the run on it. It is dropped, unless the clock broke the run
off: then nothing comes after it any more. -/
def leave (database : Ephemeral) (work : WorkId) :
    Except Interruption Outcome × Journal σ → Upshot × Journal σ
  | (.ok outcome, j) => (.ended outcome, database.tearDown server work j)
  | (.error .timeUp, j) => (.brokenOff .timeUp, database.tearDown server work j)
  | (.error .clockOverflow, j) => (.brokenOff .clockOverflow, j)

/-- A run on a database that is created for it and dropped afterwards. The time for the run may be
limited to a number of seconds. Requests and ephemeral runs are both made of visits. -/
def visit (admin : Connect) (options : Options) (name : String) (timeout : Option Nat)
    (schema mockData : String) (work : WorkId) (s : σ) : Upshot × Journal σ :=
  match Ephemeral.create server admin options name (.begin s) with
  | (.error (.failure f), j) => (.unprovided f, j)
  | (.error (.interruption i), j) => (.brokenOff i, j)
  | (.ok database, j) =>
    leave server database work
      (runOn server database.connect options (limitAfter server timeout j.state) schema mockData
        j)

/-! ## What the server receives -/

/-- A creation from the beginning of a journal, case by case. -/
theorem create_eq (admin : Connect) (options : Options) (name : String) (s : σ) :
    Ephemeral.create server admin options name (.begin s) =
      match openPool server admin 1 options.acquireTimeout none s with
      | (.error setback, s') => (.error setback, .begin s')
      | (.ok (), s') =>
        match server.execute admin.databaseName (Ephemeral.createStatement name) s' with
        | (.error f, s'') =>
          (.error (.failure f),
            ⟨s'', [], [⟨admin.databaseName, Ephemeral.createStatement name, false⟩]⟩)
        | (.ok _, s'') =>
          (.ok ⟨admin, name⟩, ⟨s'', [.databaseCreated name],
            [⟨admin.databaseName, Ephemeral.createStatement name, true⟩]⟩) := by
  rw [Ephemeral.create]
  rcases hopen : openPool server admin 1 options.acquireTimeout none s with ⟨result, s'⟩
  rw [show (Journal.begin s).state = s from rfl, hopen]
  cases result with
  | error setback => rfl
  | ok =>
    rcases hexecute : server.execute admin.databaseName (Ephemeral.createStatement name) s'
      with ⟨answer, s''⟩
    -- The one statement that was sent is the first in the journal.
    have hsend := send_of_execute_eq server (j := (Journal.begin s).moveTo s') hexecute
    simp only [hsend, hexecute]
    cases answer <;> rfl

/-- The database that was created has the name that was asked for. -/
theorem eq_of_create_eq_ok {admin : Connect} {options : Options} {name : String} {s : σ}
    {e : Ephemeral} (h : (Ephemeral.create server admin options name (.begin s)).1 = .ok e) :
    e = ⟨admin, name⟩ := by
  rw [create_eq] at h
  generalize openPool server admin 1 options.acquireTimeout none s = opened at h
  obtain ⟨result, s'⟩ := opened
  cases result with
  | error setback => cases h
  | ok =>
    dsimp only at h
    generalize server.execute admin.databaseName (Ephemeral.createStatement name) s' = executed
      at h
    obtain ⟨answer, s''⟩ := executed
    cases answer with
    | error f => cases h
    | ok n => cases h; rfl

/-- No limit is set for a creation, so that a request is not given up before its database is there.
-/
theorem create_ne_timeUp (admin : Connect) (options : Options) (name : String) (s : σ) :
    (Ephemeral.create server admin options name (.begin s)).1 ≠
      .error (.interruption .timeUp) := by
  have hopen := openPool_none_ne_timeUp server admin 1 options.acquireTimeout s
  rw [create_eq]
  generalize openPool server admin 1 options.acquireTimeout none s = opened at hopen ⊢
  obtain ⟨result, s'⟩ := opened
  cases result with
  | error setback =>
    intro h
    cases h
    exact hopen rfl
  | ok =>
    dsimp only
    generalize server.execute admin.databaseName (Ephemeral.createStatement name) s' = executed
    obtain ⟨answer, s''⟩ := executed
    cases answer with
    | error f => exact fun h => nomatch h
    | ok n => exact fun h => nomatch h

/-- What was done before the run makes no difference to what comes after it. -/
theorem leave_append (database : Ephemeral) (work : WorkId)
    (result : Except Interruption Outcome) (j k : Journal σ) :
    leave server database work (result, j ++ k) =
      ((leave server database work (result, k)).1,
        j ++ (leave server database work (result, k)).2) := by
  cases result with
  | ok outcome =>
    simp only [leave, Ephemeral.tearDown_append]
  | error i =>
    cases i with
    | timeUp => simp only [leave, Ephemeral.tearDown_append]
    | clockOverflow => rfl

/-- The course of a visit. After the creation of the database it goes on as if it began there, and
the two statements that frame it stand where they should. -/
theorem visit_eq (admin : Connect) (options : Options) (name : String) (timeout : Option Nat)
    (schema mockData : String) (work : WorkId) (s : σ) :
    visit server admin options name timeout schema mockData work s =
      match openPool server admin 1 options.acquireTimeout none s with
      | (.error (.failure f), s') => (.unprovided f, .begin s')
      | (.error (.interruption i), s') => (.brokenOff i, .begin s')
      | (.ok (), s') =>
        match server.execute admin.databaseName (Ephemeral.createStatement name) s' with
        | (.error f, s'') =>
          (.unprovided f, ⟨s'', [], [⟨admin.databaseName, Ephemeral.createStatement name, false⟩]⟩)
        | (.ok _, s'') =>
          let rest := leave server ⟨admin, name⟩ work
            (runOn server (admin.toDatabase name) options (limitAfter server timeout s'') schema
              mockData (.begin s''))
          (rest.1, ⟨s'', [.databaseCreated name],
            [⟨admin.databaseName, Ephemeral.createStatement name, true⟩]⟩ ++ rest.2) := by
  rw [visit, create_eq]
  -- The creation fails, or the run begins in a journal of its own.
  rcases openPool server admin 1 options.acquireTimeout none s with ⟨result, s'⟩
  cases result with
  | error setback => cases setback <;> rfl
  | ok =>
    dsimp only
    rcases server.execute admin.databaseName (Ephemeral.createStatement name) s'
      with ⟨answer, s''⟩
    cases answer with
    | error f => rfl
    | ok n =>
      dsimp only
      -- What was sent and logged so far does not matter to what follows.
      rw [← Journal.append_begin (⟨s'', _, _⟩ : Journal σ), runOn_append, leave_append]
      rfl

/-- An event that says how the dropping of a database went. -/
def isTeardown : Event → Bool
  | .databaseDropped _ | .teardownFailed _ _ => true
  | _ => false

/-- One event and one statement tell of the end of a database, whether it went well or not. -/
theorem Ephemeral.exists_tearDown_eq (e : Ephemeral) (work : WorkId) (s : σ) :
    ∃ s' event dropped, isTeardown event = true ∧ e.tearDown server work (.begin s) =
      ⟨s', [event], [⟨e.admin.databaseName, dropStatement e.name, dropped⟩]⟩ := by
  rcases hexecute : server.execute e.admin.databaseName (dropStatement e.name) s
    with ⟨answer, s'⟩
  have hsend := send_of_execute_eq (j := .begin s) server hexecute
  cases answer with
  | error f =>
    refine ⟨s', .teardownFailed work (provisionMessage f), false, rfl, ?_⟩
    rw [tearDown, drop, hsend]
    rfl
  | ok n =>
    refine ⟨s', .databaseDropped e.name, true, rfl, ?_⟩
    rw [tearDown, drop, hsend]
    rfl

/-- The statements of a visit that began in the state `s`, for each way in which its creation can
go. A visit that was cut short has sent nothing after the creation. In all others the dropping is
the last statement. -/
structure Course (admin : Connect) (options : Options) (name : String) (s : σ)
    (sent : List Sent) (isCutShort : Prop) : Prop where
  unreached : ∀ {setback s'},
    openPool server admin 1 options.acquireTimeout none s = (.error setback, s') → sent = []
  refused : ∀ {s' f s''},
    openPool server admin 1 options.acquireTimeout none s = (.ok (), s') →
    server.execute admin.databaseName (Ephemeral.createStatement name) s' = (.error f, s'') →
    sent = [⟨admin.databaseName, Ephemeral.createStatement name, false⟩]
  created : ∀ {s' n s''},
    openPool server admin 1 options.acquireTimeout none s = (.ok (), s') →
    server.execute admin.databaseName (Ephemeral.createStatement name) s' = (.ok n, s'') →
    ¬ isCutShort →
    ∃ between dropped, (∀ x ∈ between, x.database = name) ∧
      sent = ⟨admin.databaseName, Ephemeral.createStatement name, true⟩ ::
        (between ++ [⟨admin.databaseName, Ephemeral.dropStatement name, dropped⟩])
  cutShort : ∀ {s' n s''},
    openPool server admin 1 options.acquireTimeout none s = (.ok (), s') →
    server.execute admin.databaseName (Ephemeral.createStatement name) s' = (.ok n, s'') →
    isCutShort →
    sent = [⟨admin.databaseName, Ephemeral.createStatement name, true⟩]
  /-- The ready timeout cuts a visit short when it ends at no moment of the clock. -/
  overflow : ∀ {s' n s''},
    openPool server admin 1 options.acquireTimeout none s = (.ok (), s') →
    server.execute admin.databaseName (Ephemeral.createStatement name) s' = (.ok n, s'') →
    deadlineAfter (server.now s'') options.readyTimeout = none → isCutShort

/-- Leaving a database does not change what the run came to. -/
theorem fst_leave_eq_brokenOff_iff (database : Ephemeral) (work : WorkId)
    (r : Except Interruption Outcome × Journal σ) (i : Interruption) :
    (leave server database work r).1 = .brokenOff i ↔ r.1 = .error i := by
  obtain ⟨result, j⟩ := r
  cases result with
  | ok outcome => exact ⟨fun h => (nomatch h), fun h => (nomatch h)⟩
  | error i' =>
    have hleave : (leave server database work (.error i', j)).1 = .brokenOff i' := by
      cases i' <;> rfl
    rw [hleave, Upshot.brokenOff.injEq, Except.error.injEq]

theorem leave_of_clockOverflow (database : Ephemeral) (work : WorkId)
    {r : Except Interruption Outcome × Journal σ} (h : r.1 = .error .clockOverflow) :
    leave server database work r = (.brokenOff .clockOverflow, r.2) := by
  obtain ⟨result, j⟩ := r
  cases h
  rfl

/-- Unless the clock broke the run off, the database is dropped, and that is the last statement. -/
theorem sent_leave (database : Ephemeral) (work : WorkId)
    {result : Except Interruption Outcome} {k : Journal σ}
    (h : (leave server database work (result, k)).1 ≠ .brokenOff .clockOverflow) :
    ∃ dropped, (leave server database work (result, k)).2.sent =
      k.sent ++ [⟨database.admin.databaseName, Ephemeral.dropStatement database.name,
        dropped⟩] := by
  have hsent : ∃ dropped, (database.tearDown server work k).sent =
      k.sent ++ [⟨database.admin.databaseName, Ephemeral.dropStatement database.name,
        dropped⟩] := by
    obtain ⟨s', event, dropped, -, heq⟩ := database.exists_tearDown_eq server work k.state
    exact ⟨dropped, by rw [Ephemeral.tearDown_eq_append, heq, Journal.sent_append]⟩
  cases result with
  | ok outcome => exact hsent
  | error i =>
    cases i with
    | timeUp => exact hsent
    | clockOverflow => exact absurd rfl h

/-- Every visit takes such a course, whatever the run on its database comes to. -/
theorem course_visit (admin : Connect) (options : Options) (name : String)
    (timeout : Option Nat) (schema mockData : String) (work : WorkId) (s : σ) :
    Course server admin options name s
      (visit server admin options name timeout schema mockData work s).2.sent
      ((visit server admin options name timeout schema mockData work s).1 =
        .brokenOff .clockOverflow) where
  unreached {setback s'} hopen := by
    rw [visit_eq, hopen]
    cases setback <;> rfl
  refused hopen hexecute := by simp only [visit_eq, hopen, hexecute]
  created {s' n s''} hopen hexecute hended := by
    simp only [visit_eq, hopen, hexecute] at hended ⊢
    obtain ⟨dropped, hsent⟩ := sent_leave server ⟨admin, name⟩ work hended
    exact ⟨_, dropped, database_of_mem_sent_runOn_begin server, congrArg _ hsent⟩
  cutShort {s' n s''} hopen hexecute hcut := by
    -- The run was broken off before anything was sent, and nobody drops the database.
    simp only [visit_eq, hopen, hexecute] at hcut ⊢
    have hrun := (fst_leave_eq_brokenOff_iff server _ work _ _).1 hcut
    rw [leave_of_clockOverflow server _ work hrun, Journal.sent_append,
      sent_runOn_of_clockOverflow server hrun]
    rfl
  overflow {s' n s''} hopen hexecute hdeadline := by
    -- The deadline is set when the database is there.
    simp only [visit_eq, hopen, hexecute]
    have hready : (connectWhenReady server (admin.toDatabase name) options
        (limitAfter server timeout s'') (.begin s'')).1 =
        .error (.interruption .clockOverflow) := by
      rw [connectWhenReady, show (Journal.begin s'').state = s'' from rfl, hdeadline]
    rw [fst_leave_eq_brokenOff_iff, runOn_eq_clockOverflow_iff]
    exact hready

end SchemaSeed.Database
