import SchemaSeed.Proofs.Database.Journal
import SchemaSeed.Proofs.Database.Pool
import SchemaSeed.Proofs.Run.Metrics

/-!
# Runs on a server

Every statement of a run goes to the one database of its connection. A dialogue is broken
off only when the time is up, and without a limit it never is; so a run that no limit breaks
off is the run that there would have been without it. A run that is carried out for another
database, on a server that treats the two databases alike, differs in nothing but where the
statements go.
-/

namespace SchemaSeed.Database

variable {σ : Type} (server : Server σ)

/-! ## Where statements go -/

/-- A statement was sent before, or goes to the database. By induction on the dialogue, in which
only `execute` sends anything. -/
theorem database_of_mem_sent_converse {database : String} {limit : Option Nat}
    {d : Dialogue α} {j : Journal σ} {x : Sent}
    (h : x ∈ (converse server database limit d j).2.sent) :
    x ∈ j.sent ∨ x.database = database := by
  induction d generalizing j with
  | done a => exact .inl h
  | log e next ih => exact ih (j := j.log e) h
  | clock next ih => exact ih _ h
  | ping next ih =>
    simp only [converse] at h
    split at h
    · exact .inl h
    · have hmem := ih _ h
      exact hmem
  | execute sql next ih =>
    -- Of the statements after this step, one was sent in it, and to this database.
    have hsent : ∀ y ∈ (server.send database sql j).2.sent,
        y ∈ j.sent ∨ y.database = database := by
      intro y hy
      rcases List.mem_append.1 hy with hy | hy
      · exact .inl hy
      · rw [List.mem_singleton.1 hy]
        exact .inr rfl
    simp only [converse] at h
    split at h
    · exact hsent x h
    · rcases ih _ h with h | h
      · exact hsent x h
      · exact .inr h

theorem sent_connectWhenReady (connect : Connect) (options : Options) (limit : Option Nat)
    (j : Journal σ) : (connectWhenReady server connect options limit j).2.sent = j.sent := by
  unfold connectWhenReady
  split <;> rfl

/-- A run after its connection, or the report of a run that has none. The failure to connect is
reported without a limit, since nobody is asked any more. -/
theorem runOn_eq (connect : Connect) (options : Options) (limit : Option Nat)
    (schema mockData : String) (j : Journal σ) :
    runOn server connect options limit schema mockData j =
      match connectWhenReady server connect options limit j with
      | (.ok (), k) =>
        converse server connect.databaseName limit (Run.run engine schema mockData) k
      | (.error (.failure f), k) =>
        converse server connect.databaseName none (Run.unconnected f.text) k
      | (.error (.interruption i), k) => (.error i, k) :=
  rfl

/-- All statements of a run go to its own database, since connecting sends none. -/
theorem database_of_mem_sent_runOn {connect : Connect} {options : Options} {limit : Option Nat}
    {schema mockData : String} {j : Journal σ} {x : Sent}
    (h : x ∈ (runOn server connect options limit schema mockData j).2.sent) :
    x ∈ j.sent ∨ x.database = connect.databaseName := by
  have hsent := sent_connectWhenReady server connect options limit j
  rw [← hsent]
  rw [runOn_eq] at h
  generalize connectWhenReady server connect options limit j = ready at h ⊢
  obtain ⟨result, k⟩ := ready
  cases result with
  | ok => exact database_of_mem_sent_converse server h
  | error setback =>
    cases setback with
    | failure f => exact database_of_mem_sent_converse server h
    | interruption i => exact .inl h

theorem database_of_mem_sent_runOn_begin {connect : Connect} {name : String}
    {options : Options} {limit : Option Nat} {schema mockData : String} {s : σ} :
    ∀ x ∈ (runOn server (connect.toDatabase name) options limit schema mockData
      (.begin s)).2.sent, x.database = name :=
  fun _ hx => (database_of_mem_sent_runOn server hx).resolve_left List.not_mem_nil

/-! ## What breaks off a run -/

theorem interruption_of_converse {database : String} {limit : Option Nat} {d : Dialogue α}
    {j : Journal σ} {i : Interruption}
    (h : (converse server database limit d j).1 = .error i) : i = .timeUp := by
  induction d generalizing j with
  | done a => cases h
  | log e next ih => exact ih h
  | clock next ih => exact ih _ h
  | ping next ih =>
    simp only [converse] at h
    split at h
    · cases h; rfl
    · exact ih _ h
  | execute sql next ih =>
    simp only [converse] at h
    split at h
    · cases h; rfl
    · exact ih _ h

/-- Without a limit, nothing breaks off a dialogue. By induction on its steps. -/
theorem converse_none_ne_error (database : String) (d : Dialogue α) (j : Journal σ)
    (i : Interruption) : (converse server database none d j).1 ≠ .error i := by
  induction d generalizing j with
  | done a => intro h; cases h
  | log e next ih => exact ih _
  | clock next ih => exact ih _ _
  | ping next ih =>
    simp only [converse, not_isTimeUp_none]
    exact ih _ _
  | execute sql next ih =>
    simp only [converse, not_isTimeUp_none]
    exact ih _ _

/-- Deadlines are set only for connections, before anything is sent. So a run that the clock cuts
short is one that was never connected. -/
theorem runOn_eq_clockOverflow_iff (connect : Connect) (options : Options)
    (limit : Option Nat) (schema mockData : String) (j : Journal σ) :
    (runOn server connect options limit schema mockData j).1 = .error .clockOverflow ↔
      (connectWhenReady server connect options limit j).1 =
        .error (.interruption .clockOverflow) := by
  rw [runOn_eq]
  generalize connectWhenReady server connect options limit j = ready
  obtain ⟨result, k⟩ := ready
  cases result with
  | ok =>
    refine ⟨fun h => ?_, fun h => nomatch h⟩
    exact nomatch interruption_of_converse server h
  | error setback =>
    cases setback with
    | failure f =>
      -- The failure is only reported, without a limit.
      refine ⟨fun h => ?_, fun h => nomatch h⟩
      exact (converse_none_ne_error server _ _ _ _ h).elim
    | interruption i =>
      show Except.error i = Except.error .clockOverflow ↔
        Except.error (Setback.interruption i) = Except.error (.interruption .clockOverflow)
      simp only [Except.error.injEq, Setback.interruption.injEq]

theorem sent_runOn_of_clockOverflow {connect : Connect} {options : Options}
    {limit : Option Nat} {schema mockData : String} {j : Journal σ}
    (h : (runOn server connect options limit schema mockData j).1 = .error .clockOverflow) :
    (runOn server connect options limit schema mockData j).2.sent = j.sent := by
  have hready := (runOn_eq_clockOverflow_iff server _ _ _ _ _ _).1 h
  have hsent := sent_connectWhenReady server connect options limit j
  rw [runOn_eq]
  generalize connectWhenReady server connect options limit j = ready at hready hsent
  obtain ⟨result, k⟩ := ready
  cases hready
  exact hsent

theorem runOn_none_ne_timeUp (connect : Connect) (options : Options)
    (schema mockData : String) (j : Journal σ) :
    (runOn server connect options none schema mockData j).1 ≠ .error .timeUp := by
  have hready := connectWhenReady_none_ne_timeUp server connect options j
  rw [runOn_eq]
  generalize connectWhenReady server connect options none j = ready at hready
  obtain ⟨result, k⟩ := ready
  cases result with
  | ok => exact converse_none_ne_error server _ _ _ _
  | error setback =>
    cases setback with
    | failure f => exact converse_none_ne_error server _ _ _ _
    | interruption i =>
      intro h
      cases h
      exact hready rfl

/-! ## What a run comes to -/

/-- What holds of all results of a dialogue holds of the one it comes to. By induction on the
dialogue: a result, if there is one, is one of the results that the dialogue ends with. -/
theorem result_of_converse {P : α → Prop} {database : String} {limit : Option Nat}
    {d : Dialogue α} {j : Journal σ} {a : α} (hd : d.Ends P)
    (h : (converse server database limit d j).1 = .ok a) : P a := by
  induction d generalizing j with
  | done b =>
    cases h
    exact hd
  | log e next ih => exact ih hd h
  | clock next ih => exact ih _ (hd _) h
  | ping next ih =>
    simp only [converse] at h
    split at h
    · cases h
    · exact ih _ (hd _) h
  | execute sql next ih =>
    simp only [converse] at h
    split at h
    · cases h
    · exact ih _ (hd _) h

/-- With a connection or without one, the report has the figures of a run. So it can be read back
after it was written. -/
theorem hasFigures_of_runOn (connect : Connect) (options : Options) (limit : Option Nat)
    (schema mockData : String) (j : Journal σ) : ∀ outcome,
    (runOn server connect options limit schema mockData j).1 = .ok outcome →
      outcome.report.HasFigures := by
  intro outcome h
  rw [runOn_eq] at h
  generalize connectWhenReady server connect options limit j = ready at h
  obtain ⟨result, k⟩ := ready
  cases result with
  | ok =>
    have hfigures := result_of_converse server (ends_run engine schema mockData) h
    exact hfigures
  | error setback =>
    cases setback with
    | failure f =>
      have hfigures := result_of_converse server (ends_unconnected f.text) h
      exact hfigures
    | interruption i => cases h

/-! ## Under a limit that is not met -/

/-- A limit that is not met makes no difference to a dialogue. By induction on it, with the limit
looked at in each step that asks the database. -/
theorem converse_of_ne_timeUp {database : String} {limit : Option Nat} {d : Dialogue α}
    {j : Journal σ} (h : (converse server database limit d j).1 ≠ .error .timeUp) :
    converse server database limit d j = converse server database none d j := by
  induction d generalizing j with
  | done a => rfl
  | log e next ih => exact ih h
  | clock next ih => exact ih _ h
  -- The limit was not met here, or the dialogue would have ended.
  | ping next ih =>
    simp only [converse, not_isTimeUp_none, Bool.false_eq_true, if_false] at h ⊢
    split at h
    · exact absurd rfl h
    · next hup =>
      rw [if_neg hup]
      exact ih _ h
  | execute sql next ih =>
    simp only [converse, not_isTimeUp_none, Bool.false_eq_true, if_false] at h ⊢
    split at h
    · exact absurd rfl h
    · next hup =>
      rw [if_neg hup]
      exact ih _ h

/-- For a run, too: the limit makes no difference while connecting, nor afterwards. -/
theorem runOn_of_ne_timeUp {connect : Connect} {options : Options} {limit : Option Nat}
    {schema mockData : String} {j : Journal σ}
    (h : (runOn server connect options limit schema mockData j).1 ≠ .error .timeUp) :
    runOn server connect options limit schema mockData j =
      runOn server connect options none schema mockData j := by
  -- A time that is up before the database is ready is up for the run.
  have hready : (connectWhenReady server connect options limit j).1 ≠
      .error (.interruption .timeUp) := by
    intro hup
    refine h ?_
    rw [runOn_eq]
    generalize connectWhenReady server connect options limit j = ready at hup
    obtain ⟨result, k⟩ := ready
    cases hup
    rfl
  rw [runOn_eq] at h
  rw [runOn_eq, runOn_eq, ← connectWhenReady_of_ne_timeUp server hready]
  generalize connectWhenReady server connect options limit j = ready at h
  obtain ⟨result, k⟩ := ready
  cases result with
  | ok => exact converse_of_ne_timeUp server h
  | error setback => cases setback <;> rfl

/-! ## For another database -/

def Journal.sentTo (name : String) (j : Journal σ) : Journal σ :=
  { j with sent := j.sent.map fun x => { x with database := name } }

section Twins

variable {server} {server' : Server σ} {connect connect' : Connect}
  (hnow : server'.now = server.now)

include hnow

/-- Two databases that answer alike are the same to a dialogue, but for their names. By induction on
the dialogue. -/
theorem converse_congr {database name : String}
    (hping : server'.ping name = server.ping database)
    (hexecute : server'.execute name = server.execute database) (limit : Option Nat)
    (d : Dialogue α) (j : Journal σ) :
    converse server' name limit d (j.sentTo name) =
      ((converse server database limit d j).1,
        (converse server database limit d j).2.sentTo name) := by
  -- Sending is the one step that leaves the name of the database in the journal.
  have hsend : ∀ sql (j : Journal σ), server'.send name sql (j.sentTo name) =
      ((server.send database sql j).1, (server.send database sql j).2.sentTo name) := by
    intro sql j
    simp only [Server.send, hexecute, Journal.sentTo, List.map_append, List.map_singleton]
  induction d generalizing j with
  | done a => rfl
  | log e next ih => exact ih (j.log e)
  | clock next ih =>
    simp only [converse, hnow]
    exact ih _ _
  | ping next ih =>
    simp only [converse, hping, isTimeUp_congr hnow]
    show (if server.isTimeUp limit (server.ping database j.state).2 then _ else _) = _
    split
    · rfl
    · exact ih _ (j.moveTo _)
  | execute sql next ih =>
    simp only [converse, hsend, isTimeUp_congr hnow]
    show (if server.isTimeUp limit (server.send database sql j).2.state then _ else _) = _
    split
    · rfl
    · exact ih _ _

/-- A run on either of them comes to the same result, and what it sent differs in the database only.
-/
theorem runOn_congr (hsleep : server'.sleep = server.sleep)
    (hgreet : server'.greet connect' = server.greet connect)
    (hping : server'.ping connect'.databaseName = server.ping connect.databaseName)
    (hexecute : server'.execute connect'.databaseName = server.execute connect.databaseName)
    (options : Options) (limit : Option Nat) (schema mockData : String) (s : σ) :
    runOn server' connect' options limit schema mockData (.begin s) =
      ((runOn server connect options limit schema mockData (.begin s)).1,
        (runOn server connect options limit schema mockData (.begin s)).2.sentTo
          connect'.databaseName) := by
  have hsent := sent_connectWhenReady server connect options limit (.begin s)
  rw [runOn_eq, runOn_eq, connectWhenReady_congr hnow hsleep hgreet]
  generalize connectWhenReady server connect options limit (.begin s) = ready at hsent ⊢
  obtain ⟨result, k⟩ := ready
  -- Connecting sent nothing, so that there is nothing yet that went elsewhere.
  have hk : k.sentTo connect'.databaseName = k := by
    obtain ⟨state, events, sent⟩ := k
    cases hsent
    rfl
  have hconverse := fun limit (d : Dialogue Outcome) =>
    converse_congr hnow hping hexecute limit d k
  rw [hk] at hconverse
  cases result with
  | ok => exact hconverse _ _
  | error setback =>
    cases setback with
    | failure f => exact hconverse _ _
    | interruption i => exact congrArg _ hk.symm

end Twins

end SchemaSeed.Database
