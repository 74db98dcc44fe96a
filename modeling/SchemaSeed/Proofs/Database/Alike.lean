import SchemaSeed.Proofs.Database.Visit

/-!
# Visits that differ in a name

Two servers are alike to a visitor if they treat the visitor's databases alike, each under
its own name. How they answer when a database is dropped is left open: a visit has come to
its result by then.
-/

namespace SchemaSeed.Database

variable {σ : Type}

/-- Two servers that treat alike whoever comes over the connection `admin` to use a database, which
has the name `name` on the one and `name'` on the other. How they drop these databases is left open.
-/
structure Server.Alike (admin : Connect) (name name' : String) (server server' : Server σ) :
    Prop where
  now : server'.now = server.now
  sleep : server'.sleep = server.sleep
  greet_admin : server'.greet admin = server.greet admin
  greet_own : server'.greet (admin.toDatabase name') = server.greet (admin.toDatabase name)
  ping_own : server'.ping name' = server.ping name
  create : server'.execute admin.databaseName (Ephemeral.createStatement name') =
    server.execute admin.databaseName (Ephemeral.createStatement name)
  execute_own : server'.execute name' = server.execute name

/-- Two statements that say the same of databases with the names `name` and `name'`. Of the
dropping, the answers may differ. -/
inductive Sent.Alike (admin name name' : String) : Sent → Sent → Prop
  | create (accepted : Bool) :
    Alike admin name name' ⟨admin, Ephemeral.createStatement name, accepted⟩
      ⟨admin, Ephemeral.createStatement name', accepted⟩
  | own (sql : String) (accepted : Bool) :
    Alike admin name name' ⟨name, sql, accepted⟩ ⟨name', sql, accepted⟩
  /-- Whether a database was dropped may differ. -/
  | drop (accepted accepted' : Bool) :
    Alike admin name name' ⟨admin, Ephemeral.dropStatement name, accepted⟩
      ⟨admin, Ephemeral.dropStatement name', accepted'⟩

/-- Two events that say the same of databases with the names `name` and `name'`. -/
inductive EventAlike (name name' : String) : Event → Event → Prop
  | same (e : Event) : EventAlike name name' e e
  | created : EventAlike name name' (.databaseCreated name) (.databaseCreated name')
  /-- How the dropping of a database went may differ. -/
  | teardown {e e' : Event} (he : isTeardown e = true) (he' : isTeardown e' = true) :
    EventAlike name name' e e'

structure Journal.Alike (admin name name' : String) (j j' : Journal σ) : Prop where
  sent : List.Forall₂ (Sent.Alike admin name name') j.sent j'.sent
  events : List.Forall₂ (EventAlike name name') j.events j'.events

variable {admin name name' : String}

theorem forall₂_eventAlike_self (es : List Event) :
    List.Forall₂ (EventAlike name name') es es :=
  List.forall₂_same.2 fun e _ => .same e

/-- Journals are alike part by part, so that what two visits do may be compared step by step. -/
theorem Journal.Alike.append {j j' k k' : Journal σ} (hj : j.Alike admin name name' j')
    (hk : k.Alike admin name name' k') : (j ++ k).Alike admin name name' (j' ++ k') where
  sent := List.rel_append hj.sent hk.sent
  events := List.rel_append hj.events hk.events

theorem Journal.Alike.begin (s s' : σ) : (begin s).Alike admin name name' (begin s') :=
  ⟨.nil, .nil⟩

theorem Journal.Alike.log {j j' : Journal σ} (h : j.Alike admin name name' j') (e : Event) :
    (j.log e).Alike admin name name' (j'.log e) :=
  ⟨h.sent, List.rel_append h.events (forall₂_eventAlike_self [e])⟩

/-- What was sent to the one database, and to the other. -/
theorem Journal.alike_sentTo {j : Journal σ} (h : ∀ x ∈ j.sent, x.database = name) :
    j.Alike admin name name' (j.sentTo name') where
  sent := by
    rw [sentTo, List.forall₂_map_right_iff, List.forall₂_same]
    rintro ⟨database, sql, accepted⟩ hx
    cases h _ hx
    exact .own sql accepted
  events := forall₂_eventAlike_self j.events

/-! ## Visits -/

variable {server server' : Server σ}

/-- Each visit drops its own database. The servers may answer differently, which shows in one event
and in the mark on one statement. -/
theorem tearDown_alike (admin : Connect) (name name' : String) (work work' : WorkId)
    {j : Journal σ} (h : ∀ x ∈ j.sent, x.database = name) :
    (Ephemeral.tearDown server ⟨admin, name⟩ work j).Alike admin.databaseName name name'
      (Ephemeral.tearDown server' ⟨admin, name'⟩ work' (j.sentTo name')) := by
  rw [Ephemeral.tearDown_eq_append server, Ephemeral.tearDown_eq_append server']
  refine .append (Journal.alike_sentTo h) ?_
  obtain ⟨s, event, dropped, hevent, heq⟩ :=
    Ephemeral.exists_tearDown_eq server ⟨admin, name⟩ work j.state
  obtain ⟨s', event', dropped', hevent', heq'⟩ :=
    Ephemeral.exists_tearDown_eq server' ⟨admin, name'⟩ work' (j.sentTo name').state
  rw [heq, heq']
  exact ⟨.cons (.drop _ _) .nil, .cons (.teardown hevent hevent') .nil⟩

/-- Whatever the run came to, both visits do the same with their databases afterwards. -/
theorem leave_alike (admin : Connect) (name name' : String) (work work' : WorkId)
    (result : Except Interruption Outcome) {j : Journal σ}
    (h : ∀ x ∈ j.sent, x.database = name) :
    let left := leave server ⟨admin, name⟩ work (result, j)
    let left' := leave server' ⟨admin, name'⟩ work' (result, j.sentTo name')
    left'.1 = left.1 ∧ left.2.Alike admin.databaseName name name' left'.2 := by
  cases result with
  | ok outcome => exact ⟨rfl, tearDown_alike admin name name' work work' h⟩
  | error i =>
    cases i with
    | timeUp => exact ⟨rfl, tearDown_alike admin name name' work work' h⟩
    | clockOverflow => exact ⟨rfl, Journal.alike_sentTo h⟩

/-- On servers that are alike, visits come to the same result and send the same statements, each
with the name of its own database. What happens before the dropping is equal on both sides, but for
the name. -/
theorem visit_alike {admin : Connect} (h : server.Alike admin name name' server')
    (options : Options) (timeout : Option Nat) (schema mockData : String)
    (work work' : WorkId) (s : σ) :
    let visited := visit server admin options name timeout schema mockData work s
    let visited' := visit server' admin options name' timeout schema mockData work' s
    visited'.1 = visited.1 ∧ visited.2.Alike admin.databaseName name name' visited'.2 := by
  rw [visit_eq, visit_eq, openPool_congr h.now h.sleep h.greet_admin, h.create]
  rcases openPool server admin 1 options.acquireTimeout none s with ⟨result, s'⟩
  cases result with
  | error setback => cases setback <;> exact ⟨rfl, .begin s' s'⟩
  | ok =>
    dsimp only
    rcases server.execute admin.databaseName (Ephemeral.createStatement name) s'
      with ⟨answer, s''⟩
    cases answer with
    | error f => exact ⟨rfl, .cons (.create _) .nil, .nil⟩
    | ok n =>
      have hlimit : limitAfter server' timeout s'' = limitAfter server timeout s'' := by
        rw [limitAfter, limitAfter, h.now]
      have hrun := runOn_congr h.now h.sleep h.greet_own h.ping_own h.execute_own options
        (limitAfter server timeout s'') schema mockData s''
      dsimp only
      -- The runs on the two databases differ in the name, and the creations before them too.
      rw [hlimit, hrun]
      obtain ⟨hupshot, hjournal⟩ := leave_alike admin name name' work work' _
        (database_of_mem_sent_runOn_begin server)
      exact ⟨hupshot, .append ⟨.cons (.create _) .nil, .cons .created .nil⟩ hjournal⟩

/-- Under a timeout that does not fire, a visit goes as it goes without one. Thus a request is
compared with a run, which has no timeout. -/
theorem visit_of_ne_timeUp {admin : Connect} {options : Options} {timeout : Option Nat}
    {schema mockData : String} {work : WorkId} {s : σ}
    (h : (visit server admin options name timeout schema mockData work s).1 ≠
      .brokenOff .timeUp) :
    visit server admin options name timeout schema mockData work s =
      visit server admin options name none schema mockData work s := by
  rw [visit_eq] at h
  rw [visit_eq, visit_eq]
  generalize openPool server admin 1 options.acquireTimeout none s = opened at h ⊢
  obtain ⟨result, s'⟩ := opened
  cases result with
  | error setback => cases setback <;> rfl
  | ok =>
    dsimp only at h ⊢
    generalize server.execute admin.databaseName (Ephemeral.createStatement name) s' = executed
      at h ⊢
    obtain ⟨answer, s''⟩ := executed
    -- The limit is set for the run only, when the database is there.
    cases answer with
    | error f => rfl
    | ok n =>
      dsimp only at h ⊢
      rw [Ne, fst_leave_eq_brokenOff_iff] at h
      rw [runOn_of_ne_timeUp server h]
      rfl

end SchemaSeed.Database
