import SchemaSeed.Command.Run
import SchemaSeed.Proofs.Database.Alike

/-!
# Runs on databases of their own, as visits

The command `run` makes a visit without a timeout, and publishes what came of it.
-/

namespace SchemaSeed.Command

open Database (Connect Ephemeral Interruption Course Journal Options Server Upshot visit)

variable {σ : Type} (server : Server σ)

/-- The visit that is made for a run. There is no limit to its time, other than for a request. -/
def visitFor (options : Options) (stamps : Stamps) (p : Plan) (s : σ) : Upshot × Journal σ :=
  visit server p.connect options (Database.ephemeralName stamps.databaseId) none p.schema
    p.mockData (.run stamps.runId) s

def found (stamps : Stamps) (p : Plan) : Upshot → Except Obstacle Finding
  | .unprovided f => .error (.fault (.provision (Database.provisionMessage f)))
  | .ended outcome =>
    let name := Database.ephemeralName stamps.databaseId
    .ok ⟨Database.redact p.url ++ " (ephemeral " ++ name ++ ")", outcome⟩
  | .brokenOff i => .error (.interruption i)

/-- An ephemeral run is a visit, and what it found is told of the database that was created. -/
theorem runOnEphemeral_eq (options : Options) (stamps : Stamps) (p : Plan) (j : Journal σ) :
    let visited := visitFor server options stamps p j.state
    runOnEphemeral server options stamps p j = (found stamps p visited.1, j ++ visited.2) := by
  have hname : ∀ database, (Ephemeral.create server p.connect options
      (Database.ephemeralName stamps.databaseId) (.begin j.state)).1 = .ok database →
      database = ⟨p.connect, Database.ephemeralName stamps.databaseId⟩ :=
    fun _ h => Database.eq_of_create_eq_ok server h
  -- The name in the finding is that of the database that was created.
  rw [runOnEphemeral, Ephemeral.create_eq_append, visitFor, visit]
  generalize Ephemeral.create server p.connect options
    (Database.ephemeralName stamps.databaseId) (.begin j.state) = created at hname ⊢
  obtain ⟨result, k⟩ := created
  cases result with
  | error setback => cases setback <;> rfl
  | ok database =>
    cases hname database rfl
    have htime := Database.runOn_none_ne_timeUp server
      (Ephemeral.connect ⟨p.connect, Database.ephemeralName stamps.databaseId⟩) options p.schema
      p.mockData k
    dsimp only
    rw [Database.runOn_append, show Database.limitAfter server none k.state = none from rfl]
    generalize Database.runOn server _ options none p.schema p.mockData k = run at htime ⊢
    obtain ⟨result, k'⟩ := run
    cases result with
    | ok outcome =>
      dsimp only [Database.leave]
      rw [Ephemeral.tearDown_append]
      rfl
    | error i =>
      cases i with
      | timeUp => exact absurd rfl htime
      | clockOverflow => rfl

/-- The end of the command, after the visit that was made for it. Only an outcome is printed and
written. -/
def deliver (stamps : Stamps) (out : Option String) (p : Plan) (upshot : Upshot)
    (w : World σ) : Ending × World σ :=
  match found stamps p upshot with
  | .error (.fault fault) => (.failed fault, w)
  | .error (.interruption i) => (.brokenOff i, w)
  | .ok finding => publish stamps out finding w

/-- Without a plan, nothing is done and nothing is shown but the fault. -/
theorem runOnce_of_plan_error {settings : Settings} {arguments : RunArguments}
    {stamps : Stamps} {w : World σ} {fault : Fault}
    (h : plan settings arguments w.files = .error fault) :
    runOnce server settings arguments stamps w = (.failed fault, w) := by
  rw [runOnce, h]

/-- With a plan, the command is a visit and what is delivered of it. -/
theorem runOnce_of_plan_ok {settings : Settings} {arguments : RunArguments} {stamps : Stamps}
    {w : World σ} {p : Plan} (hephemeral : arguments.ephemeral = true)
    (h : plan settings arguments w.files = .ok p) :
    let visited := visitFor server settings.options stamps p w.journal.state
    runOnce server settings arguments stamps w =
      deliver stamps arguments.out p visited.1
        { w with journal :=
          w.journal.log (.cliRunStarted stamps.runId (Database.redact p.url)) ++ visited.2 } := by
  rw [runOnce, h]
  dsimp only
  rw [if_pos hephemeral, runOnEphemeral_eq,
    show (w.journal.log (.cliRunStarted stamps.runId (Database.redact p.url))).state =
      w.journal.state from rfl, deliver]
  generalize visitFor server settings.options stamps p w.journal.state = visited
  generalize found stamps p visited.1 = finding
  cases finding with
  | error obstacle => cases obstacle <;> rfl
  | ok finding => rfl

/-! ## Publication -/

/-- Printing and writing send nothing to the database. -/
theorem sent_publish (stamps : Stamps) (out : Option String) (finding : Finding)
    (w : World σ) : (publish stamps out finding w).2.journal.sent = w.journal.sent := by
  cases out with
  | none => rfl
  | some path =>
    simp only [publish]
    rcases writeReport path (runReport stamps finding) w.files with ⟨result, files⟩
    cases result <;> rfl

/-- And they are not broken off, though writing can fail. -/
theorem fst_publish_ne_brokenOff (stamps : Stamps) (out : Option String) (finding : Finding)
    (w : World σ) (i : Interruption) : (publish stamps out finding w).1 ≠ .brokenOff i := by
  have hending : endingOf finding.outcome ≠ .brokenOff i := by
    cases finding.outcome <;> exact fun h => nomatch h
  cases out with
  | none => exact hending
  | some path =>
    simp only [publish]
    rcases writeReport path (runReport stamps finding) w.files with ⟨result, files⟩
    cases result with
    | error f => exact fun h => nomatch h
    | ok => exact hending

theorem sent_deliver (stamps : Stamps) (out : Option String) (p : Plan) (upshot : Upshot)
    (w : World σ) : (deliver stamps out p upshot w).2.journal.sent = w.journal.sent := by
  cases upshot with
  | unprovided f => rfl
  | ended outcome => exact sent_publish stamps out _ w
  | brokenOff i => rfl

/-- The command is broken off only if its visit was cut short. All other ways to end come after the
visit. -/
theorem fst_deliver_eq_brokenOff_iff (stamps : Stamps) (out : Option String) (p : Plan)
    (upshot : Upshot) (w : World σ) (i : Interruption) :
    (deliver stamps out p upshot w).1 = .brokenOff i ↔ upshot = .brokenOff i := by
  cases upshot with
  | unprovided f => exact ⟨fun h => (nomatch h), fun h => (nomatch h)⟩
  | ended outcome =>
    exact ⟨fun h => (fst_publish_ne_brokenOff stamps out _ w i h).elim, fun h => (nomatch h)⟩
  | brokenOff i' =>
    show Ending.brokenOff i' = .brokenOff i ↔ _
    rw [Ending.brokenOff.injEq, Upshot.brokenOff.injEq]

/-- Two worlds that show the same, after visits of databases with the names `name` and `name'`. The
names may show in the journal only. -/
structure World.Alike (admin name name' : String) (w w' : World σ) : Prop where
  files : w'.files = w.files
  stdout : w'.stdout = w.stdout
  journal : w.journal.Alike admin name name' w'.journal

theorem publish_alike (stamps : Stamps) (out : Option String) (finding : Finding)
    {admin name name' : String} {w w' : World σ} (h : w.Alike admin name name' w') :
    (publish stamps out finding w').1 = (publish stamps out finding w).1 ∧
      (publish stamps out finding w).2.Alike admin name name'
        (publish stamps out finding w').2 := by
  have hstdout : w'.stdout ++ finding.outcome.report.toJson.toPretty ++ "\n" =
      w.stdout ++ finding.outcome.report.toJson.toPretty ++ "\n" := by rw [h.stdout]
  cases out with
  | none => exact ⟨rfl, h.files, hstdout, h.journal⟩
  | some path =>
    simp only [publish, h.files]
    rcases writeReport path (runReport stamps finding) w.files with ⟨result, files⟩
    cases result with
    | error f => exact ⟨rfl, rfl, hstdout, h.journal⟩
    | ok => exact ⟨rfl, rfl, hstdout, h.journal.log _⟩

theorem deliver_alike (stamps : Stamps) (out : Option String) (p : Plan) (upshot : Upshot)
    {admin name name' : String} {w w' : World σ} (h : w.Alike admin name name' w') :
    (deliver stamps out p upshot w').1 = (deliver stamps out p upshot w).1 ∧
      (deliver stamps out p upshot w).2.Alike admin name name'
        (deliver stamps out p upshot w').2 := by
  cases upshot with
  | unprovided f => exact ⟨rfl, h⟩
  | ended outcome => exact publish_alike stamps out _ h
  | brokenOff i => exact ⟨rfl, h⟩

/-! ## What the server receives for a run -/

section Runs

variable {settings : Settings} {arguments : RunArguments} {files : Files.Tree}

theorem sent_runOnce_of_fault (stamps : Stamps) {fault : Fault}
    (h : plan settings arguments files = .error fault) (s : σ) :
    (runOnce server settings arguments stamps (.begin files s)).2.journal.sent = [] := by
  rw [runOnce_of_plan_error server (w := .begin files s) h]
  rfl

/-- What the server receives for an ephemeral run is the course of one visit. -/
theorem course_runOnce (stamps : Stamps) (hephemeral : arguments.ephemeral = true) {p : Plan}
    (h : plan settings arguments files = .ok p) (s : σ) :
    let run := runOnce server settings arguments stamps (.begin files s)
    Course server p.connect settings.options (Database.ephemeralName stamps.databaseId) s
      run.2.journal.sent (run.1 = .brokenOff .clockOverflow) := by
  rw [runOnce_of_plan_ok server (w := .begin files s) hephemeral h]
  dsimp only
  rw [fst_deliver_eq_brokenOff_iff, sent_deliver]
  exact Database.course_visit server p.connect settings.options _ _ p.schema p.mockData _ s

/-- Another answer to the dropping of the database changes nothing but the log. -/
theorem runOnce_alike {server' : Server σ} (stamps : Stamps)
    (hephemeral : arguments.ephemeral = true) {p : Plan}
    (h : plan settings arguments files = .ok p)
    (hservers : server.Alike p.connect (Database.ephemeralName stamps.databaseId)
      (Database.ephemeralName stamps.databaseId) server') (s : σ) :
    let name := Database.ephemeralName stamps.databaseId
    let run := runOnce server settings arguments stamps (.begin files s)
    let run' := runOnce server' settings arguments stamps (.begin files s)
    run'.1 = run.1 ∧ run.2.Alike p.connect.databaseName name name run'.2 := by
  rw [runOnce_of_plan_ok server (w := .begin files s) hephemeral h,
    runOnce_of_plan_ok server' (w := .begin files s) hephemeral h]
  obtain ⟨hupshot, hjournal⟩ := Database.visit_alike hservers settings.options none p.schema
    p.mockData (.run stamps.runId) (.run stamps.runId) s
  dsimp only [visitFor]
  rw [show (World.begin files s).journal.state = s from rfl, hupshot]
  exact deliver_alike stamps arguments.out p _
    ⟨rfl, rfl, ((Journal.Alike.begin s s).log _).append hjournal⟩

end Runs

end SchemaSeed.Command
