import SchemaSeed.Database.Scripted
import SchemaSeed.Proofs.Command.Run
import SchemaSeed.Proofs.Service.Handler

/-!
# The databases of requests and runs

Requests for tests and runs on databases of their own follow the one course of a visit:
nothing is sent for a request that is rejected or a run that lacks a file, nothing follows a
database that was not created, and one that was created is used by the run alone and dropped
in the end. What the server answers then is seen in nothing but the log.

The one exception is a deadline beyond what the clock can show. It is met only after the
creation, and ends the program on the spot.
-/

namespace SchemaSeed

open Command (RunArguments Stamps World plan runOnce)
open Database (Course Scripted Sent Server)
open Service (Config Request acceptTest handle)

theorem ephemeral_lifecycle {σ : Type} (server : Server σ) (s : σ)
    (config : Config) (requestId databaseName : String) (r : Request)
    (hpath : r.path = "/test") (hmethod : r.method = "POST")
    (settings : Settings) (arguments : RunArguments) (hephemeral : arguments.ephemeral = true)
    (stamps : Stamps) (files : Files.Tree) :
    let handled := handle server config requestId databaseName r (.begin s)
    let name := Database.ephemeralName stamps.databaseId
    let run := runOnce server settings arguments stamps (.begin files s)
    -- The body is rejected, or a file or the URL cannot be used.
    (acceptTest r = none → handled.2.sent = []) ∧
    (∀ fault, plan settings arguments files = .error fault → run.2.journal.sent = []) ∧
    -- There is a visit, which only the clock cuts short.
    (∀ test, acceptTest r = some test →
      Course server config.admin config.options databaseName s handled.2.sent
        (handled.1 = .error .clockOverflow)) ∧
    (∀ p, plan settings arguments files = .ok p →
      Course server p.connect settings.options name s run.2.journal.sent
        (run.1 = .brokenOff .clockOverflow)) ∧
    -- Another answer to the dropping changes the log.
    (∀ server', server.Alike config.admin databaseName databaseName server' →
      let handled' := handle server' config requestId databaseName r (.begin s)
      handled'.1 = handled.1 ∧
        handled.2.Alike config.admin.databaseName databaseName databaseName handled'.2) ∧
    (∀ p server', plan settings arguments files = .ok p →
      server.Alike p.connect name name server' →
      let run' := runOnce server' settings arguments stamps (.begin files s)
      run'.1 = run.1 ∧ run.2.Alike p.connect.databaseName name name run'.2) := by
  intro handled name run
  refine ⟨fun h => ?_, fun fault h => ?_, fun test h => ?_, fun p h => ?_, fun server' h => ?_,
    fun p server' hplan h => ?_⟩
  · exact Service.sent_handle_of_rejected server config requestId databaseName hpath hmethod h s
  · exact Command.sent_runOnce_of_fault server stamps h s
  · exact Service.course_handle server config requestId databaseName hpath hmethod h s
  · exact Command.course_runOnce server stamps hephemeral h s
  · exact Service.handle_alike server config requestId databaseName hpath hmethod h s
  · exact Command.runOnce_alike server stamps hephemeral hplan h s

/-- A request without a content type, and a run, on a server that accepts everything. -/
theorem ephemeral_lifecycle_shop :
    let server := Scripted.server ⟨⟨[], [], none⟩, "/run", false, none, none⟩
    let config : Config :=
      ⟨⟨.directory "/run", 5432, some "app", none, some "shop"⟩, ⟨5, 10, 30⟩, 120⟩
    let r : Request := ⟨"POST", "/test", none, .text "\x7b\x7d"⟩
    let files := Files.Tree.ofFiles [("s.sql", .text "CREATE TABLE users (id INT);"),
      ("m.json", .text "\x7b\"users\": []\x7d")]
    let arguments : RunArguments :=
      ⟨"s.sql", "m.json", some "postgres://app@%2Frun/shop", true, none⟩
    let run := runOnce server Settings.defaults arguments ⟨"1", "0", "", "", 0⟩
      (.begin files ⟨0, 0⟩)
    (handle server config "1" "seedcheck_1" r (.begin ⟨0, 0⟩)).2.sent = [] ∧
    ∃ between dropped, (∀ x ∈ between, x.database = "seedcheck_0") ∧
      run.2.journal.sent = ⟨"shop", "CREATE DATABASE \"seedcheck_0\"", true⟩ :: (between ++
        [⟨"shop", "DROP DATABASE IF EXISTS \"seedcheck_0\" WITH (FORCE)", dropped⟩]) := by
  intro server config r files arguments run
  obtain ⟨hrejected, -, -, hrun, -⟩ := ephemeral_lifecycle server ⟨0, 0⟩ config "1" "seedcheck_1" r
    (by decide +kernel) rfl Settings.defaults arguments rfl ⟨"1", "0", "", "", 0⟩ files
  -- The plan is not computed whole: its connection is all that the course depends on.
  have hconnect : (plan Settings.defaults arguments files).toOption.map (·.connect) =
      some config.admin := by decide +kernel
  have hopen : (Database.openPool server config.admin 1 10 none ⟨0, 0⟩).1 = .ok () := by
    decide +kernel
  have hended : run.1 ≠ .brokenOff .clockOverflow := by decide +kernel
  refine ⟨hrejected rfl, ?_⟩
  cases hplan : plan Settings.defaults arguments files with
  | error fault =>
    rw [hplan] at hconnect
    cases hconnect
  | ok p =>
    rw [hplan] at hconnect
    have hadmin : p.connect = config.admin := Option.some.inj hconnect
    have hcourse := hrun p hplan
    rw [hadmin] at hcourse
    exact hcourse.created (Prod.ext hopen rfl) (Prod.ext rfl rfl) hended

/-- The settings admit a ready timeout that ends at no moment of the clock. Then a run ends
right after the creation of its database, which nobody drops. -/
theorem runOnce_leaves_database :
    let files := Files.Tree.ofFiles [
      ("seedcheck.toml", .text "[database]\nready_timeout_secs = 9223372036854775807\n"),
      ("s.sql", .text "CREATE TABLE users (id INT);"),
      ("m.json", .text "\x7b\"users\": []\x7d")]
    let server := Scripted.server ⟨⟨[], [], none⟩, "/run", false, none, none⟩
    let arguments : RunArguments :=
      ⟨"s.sql", "m.json", some "postgres://app@%2Frun/shop", true, none⟩
    ∃ settings, Settings.load files [] none = .ok settings ∧
      let run := runOnce server settings arguments ⟨"1", "0", "", "", 0⟩
        (.begin files ⟨3_600_000_000_000, 0⟩)
      run.1 = .brokenOff .clockOverflow ∧
        run.2.journal.sent = [⟨"shop", "CREATE DATABASE \"seedcheck_0\"", true⟩] := by
  intro files server arguments
  refine ⟨⟨⟨"0.0.0.0:8080", 120⟩, ⟨none, 5, 10, 9223372036854775807⟩, ⟨.json, "info", none⟩⟩, ?_, ?_⟩
  · decide +kernel
  · constructor
    · decide +kernel
    · decide +kernel

end SchemaSeed
