import SchemaSeed.Command.Program
import SchemaSeed.Proofs.Command.Run
import SchemaSeed.Proofs.Files.Tree
import SchemaSeed.Proofs.Service.Handler

/-!
# Commands and passwords

Two commands that were given different passwords have plans that differ in the password
only. On a server that ignores passwords they do the same from there on: they end in the
same way, print and log the same, and make the same changes to their files.
-/

namespace SchemaSeed.Command

open Database (Journal Options Server redact)
open Database.Url (IsPassword PasswordUrl SameButPassword)
open Files.Tree (SameButContents SameChanges)
open Service (Config)

variable {σ : Type} {server : Server σ}

/-- Two worlds that show the same, whose files came from `t` and `t'` by the same changes. The files
may differ where they hold the connection string. -/
structure World.Same (t t' : Files.Tree) (w w' : World σ) : Prop where
  files : SameChanges t t' w.files w'.files
  stdout : w'.stdout = w.stdout
  journal : w'.journal = w.journal

/-- Two commands that end in the same way and leave such worlds. -/
structure SameEnd (t t' : Files.Tree) (r r' : Ending × World σ) : Prop where
  ending : r'.1 = r.1
  world : r.2.Same t t' r'.2

variable {t t' : Files.Tree} {w w' : World σ}

/-! ## Publication -/

/-- A report is written to the same place with the same content, or meets the same fault: whether a
path can be written depends on what there is, and not on what is in it. -/
theorem writeReport_same (hcontents : t.SameButContents t') {a a' : Files.Tree}
    (h : SameChanges t t' a a') (path : String) (document : Json.Value) :
    (writeReport path document a').1 = (writeReport path document a).1 ∧
      SameChanges t t' (writeReport path document a).2 (writeReport path document a').2 := by
  have hparent := Files.Tree.createParent_alike hcontents h path
  rw [writeReport, writeReport]
  generalize a.createParent path = created at hparent ⊢
  generalize a'.createParent path = created' at hparent ⊢
  cases hparent with
  | error f => exact ⟨rfl, h⟩
  | @ok b b' h =>
    have hwrite := Files.Tree.write_alike hcontents h path (.text document.toPretty)
    dsimp only
    generalize b.write path (.text document.toPretty) = written at hwrite ⊢
    generalize b'.write path (.text document.toPretty) = written' at hwrite ⊢
    cases hwrite with
    | error f => exact ⟨rfl, h⟩
    | ok h => exact ⟨rfl, h⟩

/-- What is printed and written for an outcome does not know of the connection. -/
theorem publish_same (hcontents : t.SameButContents t') (h : w.Same t t' w') (stamps : Stamps)
    (out : Option String) (finding : Finding) :
    SameEnd t t' (publish stamps out finding w) (publish stamps out finding w') := by
  have hstdout : w'.stdout ++ finding.outcome.report.toJson.toPretty ++ "\n" =
      w.stdout ++ finding.outcome.report.toJson.toPretty ++ "\n" := by rw [h.stdout]
  cases out with
  | none => exact ⟨rfl, h.files, hstdout, h.journal⟩
  | some path =>
    obtain ⟨hresult, hfiles⟩ := writeReport_same hcontents h.files path (runReport stamps finding)
    simp only [publish]
    generalize writeReport path (runReport stamps finding) w.files = written at hresult hfiles ⊢
    generalize writeReport path (runReport stamps finding) w'.files = written' at hresult hfiles ⊢
    obtain ⟨result, files⟩ := written
    obtain ⟨result', files'⟩ := written'
    cases hresult
    cases result with
    | error f => exact ⟨rfl, hfiles, hstdout, h.journal⟩
    | ok => exact ⟨rfl, hfiles, hstdout, congrArg (·.log (.reportWritten path)) h.journal⟩

/-! ## Runs -/

/-- Two plans that differ in the password of the URL. What is shown of the URL is equal. -/
structure Plan.Same (p p' : Plan) : Prop where
  schema : p'.schema = p.schema
  mockData : p'.mockData = p.mockData
  shown : redact p'.url = redact p.url
  connect : SameButPassword p.connect p'.connect

/-- A run on the database of the URL, on a server that ignores passwords, is the same. -/
theorem runDirectly_same (hserver : server.IgnoresPasswords) {p p' : Plan} (h : p.Same p')
    (options : Options) (j : Journal σ) :
    runDirectly server options p' j = runDirectly server options p j := by
  have hrun := Database.runOn_withoutPassword hserver p'.connect options none p'.schema
    p'.mockData j
  rw [← h.connect, Database.runOn_withoutPassword hserver, h.schema, h.mockData] at hrun
  rw [runDirectly, runDirectly, h.schema, h.mockData, ← hrun, h.shown]

/-- So is a run on a database of its own, which is created over the same connection. -/
theorem runOnEphemeral_same (hserver : server.IgnoresPasswords) {p p' : Plan} (h : p.Same p')
    (options : Options) (stamps : Stamps) (j : Journal σ) :
    runOnEphemeral server options stamps p' j = runOnEphemeral server options stamps p j := by
  have hfound : found stamps p' = found stamps p := by
    funext upshot
    rw [found.eq_def, found.eq_def, h.shown]
  have hvisit := Database.visit_withoutPassword hserver p'.connect options
    (Database.ephemeralName stamps.databaseId) none p'.schema p'.mockData (.run stamps.runId)
    j.state
  rw [← h.connect, Database.visit_withoutPassword hserver, h.schema, h.mockData] at hvisit
  rw [runOnEphemeral_eq, runOnEphemeral_eq, hfound, visitFor, visitFor, h.schema, h.mockData,
    hvisit]

/-- The whole command `run`. Either both plans fail with the same fault, or both runs are the same.
-/
theorem runOnce_same (hserver : server.IgnoresPasswords) (hcontents : t.SameButContents t')
    (h : w.Same t t' w') {settings settings' : Settings}
    (hoptions : settings'.options = settings.options) {arguments arguments' : RunArguments}
    (hplan : GoAlike Plan.Same (plan settings arguments w.files)
      (plan settings' arguments' w'.files))
    (hephemeral : arguments'.ephemeral = arguments.ephemeral)
    (hout : arguments'.out = arguments.out) (stamps : Stamps) :
    SameEnd t t' (runOnce server settings arguments stamps w)
      (runOnce server settings' arguments' stamps w') := by
  rw [runOnce, runOnce]
  generalize plan settings arguments w.files = planned at hplan ⊢
  generalize plan settings' arguments' w'.files = planned' at hplan ⊢
  -- The plans fail in the same way, or they differ in the password only.
  cases hplan with
  | error fault => exact ⟨rfl, h⟩
  | @ok p p' hp =>
    -- Up to here everything was the same, and so is what was found out.
    simp only [h.journal, hp.shown, hoptions, hephemeral, runDirectly_same hserver hp,
      runOnEphemeral_same hserver hp]
    generalize (if arguments.ephemeral = true then _ else _ :
      Except Obstacle Finding × Journal σ) = found
    obtain ⟨result, j⟩ := found
    cases result with
    | error obstacle =>
      cases obstacle with
      | fault fault => exact ⟨rfl, h.files, h.stdout, rfl⟩
      | interruption i => exact ⟨rfl, h.files, h.stdout, rfl⟩
    | ok finding =>
      have hworld : World.Same t t' { w with journal := j } { w' with journal := j } :=
        ⟨h.files, h.stdout, rfl⟩
      rw [hout]
      exact publish_same hcontents hworld stamps arguments.out finding

/-! ## Services -/

/-- Two plans that differ in the password of the administrator, which all requests use. -/
structure ServicePlan.Same (p p' : ServicePlan) : Prop where
  bind : p'.bind = p.bind
  shown : redact p'.adminUrl = redact p.adminUrl
  config : p.config.withoutPassword = p'.config.withoutPassword

/-- All requests that arrive are answered alike. By induction on them. -/
theorem handleAll_withoutPassword (hserver : server.IgnoresPasswords) (config : Config)
    (arrivals : List Arrival) (j : Journal σ) :
    handleAll server config.withoutPassword j arrivals = handleAll server config j arrivals := by
  induction arrivals generalizing j with
  | nil => rfl
  | cons a rest ih => simp only [handleAll, Service.handle_withoutPassword _ hserver, ih]

/-- The whole command `serve`, up to the answers to all requests that arrive. -/
theorem serve_same (hserver : server.IgnoresPasswords) (h : w.Same t t' w')
    {settings settings' : Settings} {arguments arguments' : ServeArguments}
    (hplan : GoAlike ServicePlan.Same (servicePlan settings arguments)
      (servicePlan settings' arguments')) (stamps : Stamps) (arrivals : List Arrival) :
    SameEnd t t' (serve server settings arguments stamps arrivals w)
      (serve server settings' arguments' stamps arrivals w') := by
  rw [serve, serve]
  generalize servicePlan settings arguments = planned at hplan ⊢
  generalize servicePlan settings' arguments' = planned' at hplan ⊢
  cases hplan with
  | error fault => exact ⟨rfl, h⟩
  | @ok p p' hp =>
    -- The handlers are given the connection without its password on both sides.
    have hhandled := handleAll_withoutPassword hserver p'.config arrivals
    simp only [← hp.config, handleAll_withoutPassword hserver] at hhandled
    simp only [hp.bind, hp.shown, h.journal, ← hhandled]
    cases checkAddress p.bind with
    | error fault => exact ⟨rfl, h⟩
    | ok =>
      dsimp only
      generalize handleAll server p.config _ arrivals = handled
      obtain ⟨result, j⟩ := handled
      cases result with
      | error i => exact ⟨rfl, h.files, h.stdout, rfl⟩
      | ok responses => exact ⟨rfl, h.files, h.stdout, rfl⟩

/-! ## Plans -/

section Plans

variable (u : PasswordUrl) {password password' : List Char} (h : IsPassword password)
  (h' : IsPassword password') {settings settings' : Settings}

include h h'

/-- What is read to make a plan: the connection string, wherever it comes from, and the two files.
-/
theorem plan_same {arguments arguments' : RunArguments} {files files' : Files.Tree}
    (hurl : arguments.databaseUrl.or settings.database.adminUrl = some (u.dsn password))
    (hurl' : arguments'.databaseUrl.or settings'.database.adminUrl = some (u.dsn password'))
    (hschema : files.readText arguments.schema = files'.readText arguments'.schema)
    (hmockData : files.readText arguments.mockData = files'.readText arguments'.mockData) :
    GoAlike Plan.Same (plan settings arguments files) (plan settings' arguments' files') := by
  simp only [plan, hurl, hurl', ← hschema, ← hmockData]
  refine .bind_same _ fun schema => .bind_same _ fun mockData => ?_
  exact ((u.parse_dsn h h').mapError _).bind fun c c' hconnect =>
    .ok ⟨rfl, rfl, u.redact_dsn h' h, hconnect⟩

/-- The plan of a service reads no files but the settings, so that the two URLs are all that can
differ. -/
theorem servicePlan_same {arguments arguments' : ServeArguments}
    (hurl : arguments.adminDatabaseUrl.or settings.database.adminUrl = some (u.dsn password))
    (hurl' : arguments'.adminDatabaseUrl.or settings'.database.adminUrl =
      some (u.dsn password'))
    (hbind : arguments'.bind = arguments.bind) (hserver : settings'.server = settings.server)
    (hoptions : settings'.options = settings.options) :
    GoAlike ServicePlan.Same (servicePlan settings arguments)
      (servicePlan settings' arguments') := by
  have htimeout : settings'.requestTimeout = settings.requestTimeout := by
    rw [Settings.requestTimeout, Settings.requestTimeout, hserver]
  simp only [servicePlan, hurl, hurl', hbind, hserver, hoptions, htimeout]
  refine ((u.parse_dsn h h').mapError _).bind fun c c' hconnect => ?_
  refine .ok ⟨rfl, u.redact_dsn h' h, ?_⟩
  simp only [Config.withoutPassword]
  rw [hconnect]

end Plans

end SchemaSeed.Command
