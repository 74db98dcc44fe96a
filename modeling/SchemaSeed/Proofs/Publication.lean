import SchemaSeed.Database.Scripted
import SchemaSeed.Proofs.Command.Run
import SchemaSeed.Proofs.Files.Room
import SchemaSeed.Proofs.Report

/-!
# What a run leaves behind

The command `run` prints the report of its outcome, writes it to a file if asked to, and ends.
The three agree (`Published`): the file is one document that holds the report that was
printed, and the ending tells whether the run was completed and the file written. Where
there is no outcome nothing is printed or written.
-/

namespace SchemaSeed

open Database (Connect Ephemeral Interruption Journal Options Scripted Server Setback)
open Files (Tree)
open Files.Tree (AddsDirectories Admits IsFree IsPlain Wrote)
open Json (Shows prettyAt)

namespace Command

/-! ## The document of a run -/

/-- A report with the figures of a run begins with the execution time, which is no key that a reader
would take for a mark. -/
theorem isPlain_of_hasFigures {r : Report} (h : r.HasFigures) : r.IsPlain := by
  rw [Report.IsPlain, Json.isOrdinary_iff_keys, h]
  decide

/-- The document holds a report, and is one container deeper. Its other members are texts. -/
theorem shows_runReport (depth line : Nat) (stamps : Stamps) {finding : Finding}
    (h : finding.outcome.report.HasFigures) :
    Shows (depth + 3) (runReport stamps finding) (prettyAt line (runReport stamps finding)) := by
  have hkeys : ["run_id", "started_at", "finished_at", "database", "aborted",
      "result"].Nodup := by decide
  have hfirst : "run_id" ≠ Json.embeddedKey := by decide
  refine Json.shows_object (Json.isOrdinary_cons.2 hfirst) hkeys
    (Json.objectText_pretty line _ ?_)
  simp only [List.forall_mem_cons]
  exact ⟨Report.shows_string _ _ _, Report.shows_string _ _ _, Report.shows_string _ _ _,
    Report.shows_string _ _ _, Report.shows_bool _ _ _,
    Report.shows_toJson _ _ (isPlain_of_hasFigures h), fun _ h => nomatch h⟩

/-- A text is one document with the report of an outcome, and tells whether it is that of an
aborted run. -/
def Documents (outcome : Outcome) (text : String) : Prop :=
  ∃ members, Json.parseValue text = .ok (.object members) ∧
    Assoc.find? members "result" = some outcome.report.toJson ∧
    Assoc.find? members "aborted" = some (.bool outcome.isAborted)

/-- What is written for an outcome is such a document. -/
theorem documents_runReport (stamps : Stamps) {finding : Finding}
    (h : finding.outcome.report.HasFigures) :
    Documents finding.outcome (runReport stamps finding).toPretty := by
  have hparse := Shows.parse (shows_runReport 124 0 stamps h) Json.isSpaces_nil
  rw [List.append_nil] at hparse
  exact ⟨_, hparse, rfl, rfl⟩

/-- What is printed for the report of a run is read as the report. The line feed at the end is a
blank. -/
theorem parse_printed {r : Report} (h : r.HasFigures) :
    Json.parseValue (r.toJson.toPretty ++ "\n") = .ok r.toJson := by
  have hline : Json.IsSpaces ['\n'] := List.forall_mem_singleton.2 rfl
  have hparse := Shows.parse (Report.shows_toJson 125 0 (isPlain_of_hasFigures h)) hline
  rw [String.ofList_append] at hparse
  exact hparse

/-! ## Publication -/

/-- The document is written if there is room for it, and only then. Otherwise there may be new
directories, but every file is as it was. -/
theorem writeReport_spec (path : String) (document : Json.Value) (files : Tree) :
    (∃ files', writeReport path document files = (.ok (), files') ∧ files.Admits path ∧
      Wrote files path document.toPretty files') ∨
    ∃ f files', writeReport path document files = (.error f, files') ∧ ¬ files.Admits path ∧
      AddsDirectories files files' := by
  rw [writeReport]
  -- There is no room if the directory cannot be made, or the file cannot be opened in it.
  cases hparent : files.createParent path with
  | error f =>
    refine .inr ⟨f, files, rfl, ?_, .refl files⟩
    rintro ⟨t', place, hparent', -⟩
    rw [hparent] at hparent'
    cases hparent'
  | ok t =>
    have hadds := Tree.addsDirectories_createParent hparent
    dsimp only
    rw [Tree.write]
    cases hfile : t.fileToCreate path with
    | error f =>
      refine .inr ⟨f, t, rfl, ?_, hadds⟩
      rintro ⟨t', place, hparent', hfile'⟩
      rw [hparent] at hparent'
      cases hparent'
      rw [hfile] at hfile'
      cases hfile'
    | ok place =>
      exact .inl ⟨_, rfl, ⟨t, place, hparent, hfile⟩, Tree.wrote_put hadds hfile⟩

/-- What is printed and written for an outcome, and the ending, agree. `files` are those
before the run. -/
structure Published (files : Tree) (out : Option String) (outcome : Outcome) (ending : Ending)
    (w : World σ) : Prop where
  stdout : w.stdout = outcome.report.toJson.toPretty ++ "\n"
  /-- What is printed is one document, the report. -/
  printed : Json.parseValue w.stdout = .ok outcome.report.toJson
  /-- The document of the run, if there is room for it, takes the place of what was there. -/
  written : ∀ path ∈ out, files.Admits path →
    ∃ text, Wrote files path text w.files ∧ Documents outcome text
  unwritten : ∀ path ∈ out, ¬ files.Admits path → AddsDirectories files w.files
  unasked : out = none → w.files = files
  done_iff : ending = .done ↔ outcome.isAborted = false ∧ ∀ path ∈ out, files.Admits path
  aborted_iff : ∀ reason, ending = .failed (.aborted reason) ↔
    outcome.fatalError?.map (·.message) = some reason ∧ ∀ path ∈ out, files.Admits path
  io_iff : (∃ reason, ending = .failed (.io reason)) ↔ ∃ path ∈ out, ¬ files.Admits path

section Published

variable {σ : Type} {files : Tree} {out : Option String} {outcome : Outcome} {w : World σ}

/-- With room for the document, or with no wish for one. -/
theorem Published.of_room (hfigures : outcome.report.HasFigures)
    (hstdout : w.stdout = outcome.report.toJson.toPretty ++ "\n")
    (hroom : ∀ path ∈ out, files.Admits path)
    (hwritten : ∀ path ∈ out, ∃ text, Wrote files path text w.files ∧ Documents outcome text)
    (hunasked : out = none → w.files = files) :
    Published files out outcome (endingOf outcome) w where
  stdout := hstdout
  printed := hstdout ▸ parse_printed hfigures
  written path hpath _ := hwritten path hpath
  unwritten path hpath h := absurd (hroom path hpath) h
  unasked := hunasked
  -- With room for the document, the outcome alone decides how the command ends.
  done_iff := by
    cases outcome with
    | completed r => exact ⟨fun _ => ⟨rfl, hroom⟩, fun _ => rfl⟩
    | aborted r e => exact ⟨fun h => (nomatch h), fun h => (nomatch h.1)⟩
  aborted_iff reason := by
    cases outcome with
    | completed r => exact ⟨fun h => (nomatch h), fun h => (nomatch h.1)⟩
    | aborted r e =>
      refine ⟨fun h => ?_, fun h => ?_⟩
      · cases h
        exact ⟨rfl, hroom⟩
      · cases h.1
        rfl
  io_iff := by
    refine ⟨fun h => ?_, fun h => ?_⟩
    · obtain ⟨reason, h⟩ := h
      cases outcome <;> cases h
    · obtain ⟨path, hpath, h⟩ := h
      exact absurd (hroom path hpath) h

/-- Without room, the report was printed all the same, and the ending says why it was not written.
-/
theorem Published.of_no_room {path : String} {f : Files.Fault}
    (hfigures : outcome.report.HasFigures)
    (hstdout : w.stdout = outcome.report.toJson.toPretty ++ "\n")
    (hroom : ¬ files.Admits path) (hadds : AddsDirectories files w.files) :
    Published files (some path) outcome (.failed (.io f.text)) w where
  stdout := hstdout
  printed := hstdout ▸ parse_printed hfigures
  written := by
    rintro _ ⟨⟩ h
    exact absurd h hroom
  unwritten _ _ _ := hadds
  unasked h := nomatch h
  done_iff := ⟨fun h => (nomatch h), fun h => absurd (h.2 path rfl) hroom⟩
  aborted_iff _ := ⟨fun h => (nomatch h), fun h => absurd (h.2 path rfl) hroom⟩
  io_iff := ⟨fun _ => ⟨path, rfl, hroom⟩, fun _ => ⟨f.text, rfl⟩⟩

end Published

/-- Whatever the outcome is, what is printed and written agrees with the ending. -/
theorem publish_published {σ : Type} (stamps : Stamps) (out : Option String) {finding : Finding}
    (hfigures : finding.outcome.report.HasFigures) {w : World σ} (hstdout : w.stdout = "") :
    Published w.files out finding.outcome (publish stamps out finding w).1
      (publish stamps out finding w).2 := by
  have hprinted : w.stdout ++ finding.outcome.report.toJson.toPretty ++ "\n" =
      finding.outcome.report.toJson.toPretty ++ "\n" := by
    rw [hstdout, String.empty_append]
  -- Without a path, the files are left alone.
  cases out with
  | none =>
    refine .of_room hfigures hprinted ?_ ?_ fun _ => rfl
    · rintro _ ⟨⟩
    · rintro _ ⟨⟩
  | some path =>
    simp only [publish]
    rcases writeReport_spec path (runReport stamps finding) w.files with
      ⟨files, hwrite, hroom, hwrote⟩ | ⟨f, files, hwrite, hroom, hadds⟩
    · rw [hwrite]
      refine .of_room hfigures hprinted ?_ ?_ ?_
      · rintro _ ⟨⟩
        exact hroom
      · rintro _ ⟨⟩
        exact ⟨_, hwrote, documents_runReport stamps hfigures⟩
      · rintro ⟨⟩
    · rw [hwrite]
      exact .of_no_room hfigures hprinted hroom hadds

/-! ## Runs -/

variable {σ : Type} (server : Server σ)

/-- Provides the database of a run: that of the URL, or one that is created. Nothing is shown while
that is done. -/
def provide (options : Options) (ephemeral : Bool) (stamps : Stamps) (p : Plan)
    (j : Journal σ) : Except Setback Connect × Journal σ :=
  if ephemeral then
    let created :=
      Ephemeral.create server p.connect options (Database.ephemeralName stamps.databaseId) j
    (created.1.map (·.connect), created.2)
  else (.ok p.connect, j)

/-- No limit is set, so that only the clock can break this off. -/
theorem provide_ne_timeUp (options : Options) (ephemeral : Bool) (stamps : Stamps) (p : Plan)
    (j : Journal σ) :
    (provide server options ephemeral stamps p j).1 ≠ .error (.interruption .timeUp) := by
  -- The database of the URL is there, and nobody asks for it.
  cases ephemeral with
  | false => exact fun h => nomatch h
  | true =>
    have hcreate := Database.create_ne_timeUp server p.connect options
      (Database.ephemeralName stamps.databaseId) j.state
    rw [provide, if_pos rfl]
    dsimp only
    rw [Ephemeral.create_eq_append]
    generalize (Ephemeral.create server p.connect options
      (Database.ephemeralName stamps.databaseId) (.begin j.state)).1 = result at hcreate ⊢
    cases result with
    | error setback =>
      intro h
      cases h
      exact hcreate rfl
    | ok database => exact fun h => nomatch h

structure Silent (files : Tree) (w : World σ) : Prop where
  stdout : w.stdout = ""
  files : w.files = files

/-- What a run shows for which a database was provided, or was to be. It is cut short only
by a deadline that the clock cannot show. -/
def Shown (options : Options) (out : Option String) (p : Plan) (files : Tree)
    (provided : Except Setback Connect × Journal σ) (run : Ending × World σ) : Prop :=
  match provided with
  | (.error (.failure f), _) =>
    run.1 = .failed (.provision (Database.provisionMessage f)) ∧ Silent files run.2
  | (.error (.interruption i), _) =>
    i = .clockOverflow ∧ run.1 = .brokenOff i ∧ Silent files run.2
  | (.ok connect, j) =>
    match (Database.runOn server connect options none p.schema p.mockData j).1 with
    | .error i => i = .clockOverflow ∧ run.1 = .brokenOff i ∧ Silent files run.2
    | .ok outcome => Published files out outcome run.1 run.2

theorem eq_clockOverflow {i : Interruption} (h : i ≠ .timeUp) : i = .clockOverflow := by
  cases i with
  | timeUp => exact absurd rfl h
  | clockOverflow => rfl

/-- The run on the database decides: it has an outcome, which is published, or it is broken off. -/
theorem shown_of_runOn {options : Options} {out : Option String} {p : Plan} {files : Tree}
    {connect : Connect} {j : Journal σ} {run : Ending × World σ} (stamps : Stamps)
    (hrun : match Database.runOn server connect options none p.schema p.mockData j with
      | (.error i, k) => run = (.brokenOff i, ⟨files, "", k⟩)
      | (.ok outcome, _) =>
        ∃ target k, run = publish stamps out ⟨target, outcome⟩ ⟨files, "", k⟩) :
    Shown server options out p files (.ok connect, j) run := by
  have hup := Database.runOn_none_ne_timeUp server connect options p.schema p.mockData j
  have hfigures := Database.hasFigures_of_runOn server connect options none p.schema p.mockData j
  rw [Shown]
  generalize Database.runOn server connect options none p.schema p.mockData j = ran
    at hrun hup hfigures ⊢
  obtain ⟨result, k⟩ := ran
  -- No limit was set, so that only the clock can have broken the run off.
  cases result with
  | error i =>
    cases hrun
    exact ⟨eq_clockOverflow fun heq => hup (congrArg _ heq), rfl, rfl, rfl⟩
  | ok outcome =>
    obtain ⟨target, k, rfl⟩ := hrun
    have hfigures : (Finding.mk target outcome).outcome.report.HasFigures := hfigures outcome rfl
    exact publish_published (w := ⟨files, "", k⟩) stamps out hfigures rfl

/-- Every run with a plan shows what it should, whether its database is that of the URL or one of
its own. -/
theorem runOnce_shown {settings : Settings} {arguments : RunArguments} {files : Tree} {p : Plan}
    (h : plan settings arguments files = .ok p) (stamps : Stamps) (s : σ) :
    let j := (Journal.begin s).log (.cliRunStarted stamps.runId (Database.redact p.url))
    Shown server settings.options arguments.out p files
      (provide server settings.options arguments.ephemeral stamps p j)
      (runOnce server settings arguments stamps (.begin files s)) := by
  intro j
  have hup := provide_ne_timeUp server settings.options arguments.ephemeral stamps p j
  rw [runOnce, show (World.begin files s).files = files from rfl, h]
  dsimp only
  rw [show (World.begin files s).journal.log _ = j from rfl]
  -- On the database of the URL, and on one that is created.
  cases hephemeral : arguments.ephemeral with
  | false =>
    rw [provide, if_neg Bool.false_ne_true, if_neg Bool.false_ne_true, runDirectly]
    refine shown_of_runOn server stamps ?_
    rcases Database.runOn server p.connect settings.options none p.schema p.mockData j
      with ⟨result, k⟩
    cases result with
    | error i => rfl
    | ok outcome => exact ⟨_, k, rfl⟩
  | true =>
    rw [hephemeral] at hup
    rw [provide, if_pos rfl] at hup ⊢
    rw [if_pos rfl, runOnEphemeral]
    dsimp only at hup ⊢
    generalize Ephemeral.create server p.connect settings.options
      (Database.ephemeralName stamps.databaseId) j = created at hup ⊢
    obtain ⟨result, k⟩ := created
    cases result with
    | error setback =>
      cases setback with
      | failure f => exact ⟨rfl, rfl, rfl⟩
      | interruption i =>
        exact ⟨eq_clockOverflow fun heq => hup (heq ▸ rfl), rfl, rfl, rfl⟩
    | ok database =>
      refine shown_of_runOn server stamps ?_
      dsimp only
      rcases Database.runOn server database.connect settings.options none p.schema p.mockData k
        with ⟨result, k'⟩
      cases result with
      | error i => rfl
      | ok outcome => exact ⟨_, database.tearDown server (.run stamps.runId) k', rfl⟩

end Command

open Command (Published RunArguments Shown Silent Stamps World plan provide runOnce)

/-- What is printed, what is written and how the command ends agree, for every run on every server.
Without a plan, nothing is shown. -/
theorem runOnce_outputs_agree {σ : Type} (server : Server σ) (settings : Settings)
    (arguments : RunArguments) (stamps : Stamps) (files : Tree) (s : σ) :
    let run := runOnce server settings arguments stamps (.begin files s)
    (match plan settings arguments files with
      | .error fault => run.1 = .failed fault ∧ Silent files run.2
      | .ok p =>
        let j := (Journal.begin s).log (.cliRunStarted stamps.runId (Database.redact p.url))
        Shown server settings.options arguments.out p files
          (provide server settings.options arguments.ephemeral stamps p j) run) ∧
    -- There is room for the file on a path without detours if nothing is in its way.
    ∀ path, IsPlain path → (files.Admits path ↔ files.IsFree path) := by
  intro run
  refine ⟨?_, fun path hplain => Tree.admits_iff hplain⟩
  cases h : plan settings arguments files with
  | error fault =>
    have hrun : run = (.failed fault, .begin files s) :=
      Command.runOnce_of_plan_error server (w := .begin files s) h
    rw [hrun]
    exact ⟨rfl, rfl, rfl⟩
  | ok p => exact Command.runOnce_shown server h stamps s

/-- The settings admit a ready timeout that ends at no moment of the clock. Then nothing is
printed and no report is written, although the files and the URL can be used, and the server
is there. -/
theorem runOnce_shows_nothing :
    let files := Tree.ofFiles [
      ("seedcheck.toml", .text "[database]\nready_timeout_secs = 9223372036854775807\n"),
      ("s.sql", .text "CREATE TABLE users (id INT);"),
      ("m.json", .text "\x7b\"users\": []\x7d")]
    let server := Scripted.server ⟨⟨[], [], none⟩, "/run", false, none, none⟩
    let arguments : RunArguments :=
      ⟨"s.sql", "m.json", some "postgres://app@%2Frun/shop", false, some "reports/run.json"⟩
    ∃ settings, Settings.load files [] none = .ok settings ∧
      (plan settings arguments files).isOk ∧
      let run := runOnce server settings arguments ⟨"1", "0", "", "", 0⟩
        (.begin files ⟨3_600_000_000_000, 0⟩)
      run.1 = .brokenOff .clockOverflow ∧ run.2.stdout = "" ∧
        run.2.files.readText "reports/run.json" = .error .notFound := by
  intro files server arguments
  refine ⟨⟨⟨"0.0.0.0:8080", 120⟩, ⟨none, 5, 10, 9223372036854775807⟩, ⟨.json, "info", none⟩⟩, ?_, ?_⟩
  · decide +kernel
  · refine ⟨by decide +kernel, ?_, ?_, ?_⟩
    · decide +kernel
    · decide +kernel
    · decide +kernel

end SchemaSeed
