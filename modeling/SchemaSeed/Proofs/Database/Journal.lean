import SchemaSeed.Database.Ephemeral

/-!
# What a step adds to a journal

A step goes by the state of the server and never by what was logged or sent before. So it
adds to a journal exactly what it leaves in an empty one, and the work on a database can be
looked at as if nothing had happened before it.
-/

namespace SchemaSeed.Database

namespace Journal

variable {σ : Type}

/-- A journal that goes on with what a second one holds. -/
instance : Append (Journal σ) where
  append j k := ⟨k.state, j.events ++ k.events, j.sent ++ k.sent⟩

@[simp] theorem state_append (j k : Journal σ) : (j ++ k).state = k.state := rfl

@[simp] theorem events_append (j k : Journal σ) : (j ++ k).events = j.events ++ k.events := rfl

@[simp] theorem sent_append (j k : Journal σ) : (j ++ k).sent = j.sent ++ k.sent := rfl

theorem append_begin (j : Journal σ) : j ++ begin j.state = j := by
  show (⟨j.state, j.events ++ [], j.sent ++ []⟩ : Journal σ) = j
  rw [List.append_nil, List.append_nil]

/-- A journal grows at its end, so that what was there before stays in front of it. -/
theorem append_log (j k : Journal σ) (e : Event) : (j ++ k).log e = j ++ k.log e := by
  show (⟨k.state, (j.events ++ k.events) ++ [e], j.sent ++ k.sent⟩ : Journal σ) = _
  rw [List.append_assoc]
  rfl

theorem append_moveTo (j k : Journal σ) (s : σ) : (j ++ k).moveTo s = j ++ k.moveTo s := rfl

end Journal

open Journal

variable {σ : Type} (server : Server σ)

/-- One statement more was sent, with the mark whether it was accepted. -/
theorem send_of_execute_eq {database sql : String} {j : Journal σ}
    {answer : Except Failure UInt64} {s : σ}
    (h : server.execute database sql j.state = (answer, s)) :
    server.send database sql j =
      (answer, ⟨s, j.events, j.sent ++ [⟨database, sql, answer.isOk⟩]⟩) := by
  unfold Server.send
  rw [h]

/-- What was sent before makes no difference to the answer, and stays in front of what is sent now.
-/
theorem send_append (database sql : String) (j k : Journal σ) :
    server.send database sql (j ++ k) =
      ((server.send database sql k).1, j ++ (server.send database sql k).2) := by
  show (_, (⟨_, j.events ++ k.events, (j.sent ++ k.sent) ++ [_]⟩ : Journal σ)) = _
  rw [List.append_assoc]
  rfl

/-! ## Dialogues -/

/-- A dialogue does the same whatever was done before it. By induction on the dialogue: each of its
steps adds to the end. -/
theorem converse_append (database : String) (limit : Option Nat) (d : Dialogue α)
    (j k : Journal σ) :
    converse server database limit d (j ++ k) =
      ((converse server database limit d k).1,
        j ++ (converse server database limit d k).2) := by
  induction d generalizing k with
  | done a => rfl
  | log e next ih => rw [converse, converse, append_log, ih]
  | clock next ih => rw [converse, converse, state_append, ih]
  | ping next ih =>
    simp only [converse, state_append, append_moveTo]
    split
    · rfl
    · exact ih _ _
  | execute sql next ih =>
    simp only [converse, send_append, state_append]
    split
    · rfl
    · exact ih _ _

/-! ## Connections -/

/-- Nor do the attempts to connect read the journal that they write to. -/
theorem connectWhenReady_append (connect : Connect) (options : Options) (limit : Option Nat)
    (j k : Journal σ) :
    connectWhenReady server connect options limit (j ++ k) =
      ((connectWhenReady server connect options limit k).1,
        j ++ (connectWhenReady server connect options limit k).2) := by
  unfold connectWhenReady
  rw [state_append]
  split
  · rfl
  · show (_, (⟨_, (j.events ++ k.events) ++ _, j.sent ++ k.sent⟩ : Journal σ)) = _
    rw [List.append_assoc]
    rfl

/-- A run with its connection, put together from these two. -/
theorem runOn_append (connect : Connect) (options : Options) (limit : Option Nat)
    (schema mockData : String) (j k : Journal σ) :
    runOn server connect options limit schema mockData (j ++ k) =
      ((runOn server connect options limit schema mockData k).1,
        j ++ (runOn server connect options limit schema mockData k).2) := by
  unfold runOn
  rw [connectWhenReady_append]
  obtain ⟨result, k'⟩ := connectWhenReady server connect options limit k
  cases result with
  | ok => exact converse_append server _ _ _ _ _
  | error setback =>
    cases setback with
    | failure f => exact converse_append server _ _ _ _ _
    | interruption i => rfl

/-! ## Databases for one run -/

namespace Ephemeral

/-- Creating a database adds its statement and its event at the end. -/
theorem create_append (admin : Connect) (options : Options) (name : String)
    (j k : Journal σ) :
    create server admin options name (j ++ k) =
      ((create server admin options name k).1, j ++ (create server admin options name k).2) := by
  unfold create
  rw [state_append]
  obtain ⟨result, s⟩ := openPool server admin 1 options.acquireTimeout none k.state
  cases result with
  | error setback => rfl
  | ok =>
    simp only [append_moveTo, send_append]
    obtain ⟨answer, k'⟩ := server.send admin.databaseName (createStatement name) (k.moveTo s)
    cases answer with
    | error f => rfl
    | ok n => simp only [append_log]

/-- In particular, the creation may be looked at as if it came first. -/
theorem create_eq_append (admin : Connect) (options : Options) (name : String)
    (j : Journal σ) :
    create server admin options name j =
      ((create server admin options name (.begin j.state)).1,
        j ++ (create server admin options name (.begin j.state)).2) := by
  rw [← create_append, append_begin]

theorem tearDown_append (e : Ephemeral) (work : WorkId) (j k : Journal σ) :
    e.tearDown server work (j ++ k) = j ++ e.tearDown server work k := by
  unfold tearDown drop
  rw [send_append]
  obtain ⟨answer, k'⟩ := server.send e.admin.databaseName (dropStatement e.name) k
  cases answer with
  | error f => exact append_log _ _ _
  | ok n => exact append_log _ _ _

theorem tearDown_eq_append (e : Ephemeral) (work : WorkId) (j : Journal σ) :
    e.tearDown server work j = j ++ e.tearDown server work (.begin j.state) := by
  rw [← tearDown_append, append_begin]

end Ephemeral

end SchemaSeed.Database
