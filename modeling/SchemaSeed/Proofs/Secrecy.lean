import SchemaSeed.Database.Scripted
import SchemaSeed.Proofs.Command.Password

/-!
# The secrecy of the password

The connection string that a command is given may come from the command line, a file or the
environment. Its password is used to connect and is shown nowhere: a command that is given
another password ends in the same way, prints and logs the same, and makes the same changes
to the files, as long as the server does not care.
-/

namespace SchemaSeed

open Database (Scripted Server)
open Database.Url (IsPassword PasswordUrl isUnreserved)
open Files.Tree (SameButContents SameChanges)

/-- Scripted servers know no passwords, so that they may be used for examples. -/
theorem Database.Scripted.ignoresPasswords (sc : Scripted) : sc.server.IgnoresPasswords :=
  fun _ _ => rfl

def Settings.withoutUrl (s : Settings) : Settings :=
  { s with database := { s.database with adminUrl := none } }

namespace Logging

variable {env env' : Environment} {t t' : Files.Tree}

/-- The log is set up in the same way: neither the filter nor the file depends on the connection
string. -/
theorem setUp_same (hfilter : Assoc.find? env' filterVariable = Assoc.find? env filterVariable)
    (hcontents : t.SameButContents t') (s : LoggingSettings) :
    (setUp false env' s t').1 = (setUp false env s t).1 ∧
      SameChanges t t' (setUp false env s t).2 (setUp false env' s t').2 := by
  have hhas : hasFilter env' s = hasFilter env s := by rw [hasFilter, hasFilter, hfilter]
  have hsame := Files.Tree.SameChanges.refl t t'
  rw [setUp, setUp, hhas]
  split
  · exact ⟨rfl, hsame⟩
  · cases s.file with
    | none => exact ⟨rfl, hsame⟩
    | some path =>
      -- The log file is opened alike in both trees, or in neither.
      have hopen := Files.Tree.openForAppending_alike hcontents hsame path
      simp only [Option.mapM_some]
      generalize t.openForAppending path = opened at hopen ⊢
      generalize t'.openForAppending path = opened' at hopen ⊢
      cases hopen with
      | error f => exact ⟨rfl, hsame⟩
      | ok h => exact ⟨rfl, h⟩

/-- Setting up the log makes no directories, so that none comes in the way of the files that are
read. -/
theorem isDirectory_of_setUp {installed : Bool} {s : LoggingSettings} {place : List String}
    (h : (setUp installed env s t).2.isDirectory place = true) :
    t.isDirectory place = true := by
  rw [setUp] at h
  split at h
  · exact h
  · cases hfile : s.file with
    | none =>
      rw [hfile] at h
      exact h
    | some path =>
      rw [hfile] at h
      cases hopen : t.openForAppending path with
      | error f =>
        simp only [Option.mapM_some, hopen] at h
        exact h
      | ok opened =>
        simp only [Option.mapM_some, hopen] at h
        exact Files.Tree.isDirectory_of_openForAppending hopen h

end Logging

namespace Command

namespace Order

def url? : Order → Option String
  | .run a => a.databaseUrl
  | .serve a => a.adminDatabaseUrl

def withoutUrl : Order → Order
  | .run a => .run { a with databaseUrl := none }
  | .serve a => .serve { a with adminDatabaseUrl := none }

def sources : Order → List String
  | .run a => [a.schema, a.mockData]
  | .serve _ => []

end Order

/-- A command line and the surroundings in which the program is started. The settings
load. -/
structure Invocation where
  line : CommandLine
  environment : Environment
  files : Files.Tree
  settings : Settings
  loads : Settings.load files environment line.config = .ok settings

namespace Invocation

def url? (i : Invocation) : Option String :=
  i.line.order.url?.or i.settings.database.adminUrl

def perform {σ : Type} (i : Invocation) (server : Server σ) (stamps : Stamps)
    (arrivals : List Arrival) (s : σ) : Ending × World σ :=
  Command.perform server i.environment i.settings i.line.order stamps arrivals i.files s

/-- Nothing differs that has to do with anything but the connection string: it may be elsewhere, and
may be another one. The files may differ in what they hold, as long as the settings and the sources
are the same. -/
structure SameButUrl (i i' : Invocation) : Prop where
  order : i'.line.order.withoutUrl = i.line.order.withoutUrl
  settings : i'.settings.withoutUrl = i.settings.withoutUrl
  environment : ∀ name ∉ Settings.adminVariables,
    Assoc.find? i'.environment name = Assoc.find? i.environment name
  files : i.files.SameButContents i'.files
  sources : ∀ path ∈ i.line.order.sources, i.files.readText path = i'.files.readText path

end Invocation

/-- Both commands, from settings and an order that differ in the URL only. -/
theorem carryOut_same {σ : Type} {server : Server σ} (hserver : server.IgnoresPasswords)
    (u : PasswordUrl) {password password' : List Char} (h : IsPassword password)
    (h' : IsPassword password') {t t' : Files.Tree} (hcontents : t.SameButContents t')
    {w w' : World σ} (hworld : w.Same t t' w') {settings settings' : Settings}
    (hsettings : settings'.withoutUrl = settings.withoutUrl) {order order' : Order}
    (horder : order'.withoutUrl = order.withoutUrl)
    (hsources : ∀ path ∈ order.sources, w.files.readText path = w'.files.readText path)
    (hurl : order.url?.or settings.database.adminUrl = some (u.dsn password))
    (hurl' : order'.url?.or settings'.database.adminUrl = some (u.dsn password'))
    (stamps : Stamps) (arrivals : List Arrival) :
    SameEnd t t' (carryOut server settings order stamps arrivals w)
      (carryOut server settings' order' stamps arrivals w') := by
  have hoptions : settings'.options = settings.options :=
    show settings'.withoutUrl.options = settings.withoutUrl.options by rw [hsettings]
  have hbind : settings'.server = settings.server :=
    show settings'.withoutUrl.server = settings.withoutUrl.server by rw [hsettings]
  -- The two orders are for the same command, with the same arguments but for the URL.
  cases order with
  | run a =>
    cases order' with
    | run a' =>
      obtain ⟨schema, mockData, url, ephemeral, out⟩ := a
      obtain ⟨schema', mockData', url', ephemeral', out'⟩ := a'
      cases horder
      have hschema := hsources schema (by simp [Order.sources])
      have hmockData := hsources mockData (by simp [Order.sources])
      have hplan : GoAlike Plan.Same
          (plan settings ⟨schema, mockData, url, ephemeral, out⟩ w.files)
          (plan settings' ⟨schema, mockData, url', ephemeral, out⟩ w'.files) :=
        plan_same u h h' hurl hurl' hschema hmockData
      exact runOnce_same hserver hcontents hworld hoptions hplan rfl rfl stamps
    | serve a' => cases horder
  | serve a =>
    cases order' with
    | run a' => cases horder
    | serve a' =>
      obtain ⟨bind, url⟩ := a
      obtain ⟨bind', url'⟩ := a'
      cases horder
      have hplan : GoAlike ServicePlan.Same (servicePlan settings ⟨bind, url⟩)
          (servicePlan settings' ⟨bind, url'⟩) :=
        servicePlan_same u h h' hurl hurl' rfl hbind hoptions
      exact serve_same hserver hworld hplan stamps arrivals

/-- The password of the connection string shows in nothing that the program does: not in how it
ends, nor in what it prints, logs and sends, nor in the files that it writes. -/
theorem perform_hides_password {σ : Type} (server : Server σ)
    (hserver : server.IgnoresPasswords) (u : PasswordUrl) {password password' : List Char}
    (h : IsPassword password) (hne : password' ≠ [])
    (hunreserved : ∀ c ∈ password', isUnreserved c = true) (i i' : Invocation)
    (hsame : i.SameButUrl i') (hurl : i.url? = some (u.dsn password))
    (hurl' : i'.url? = some (u.dsn password')) (stamps : Stamps) (arrivals : List Arrival)
    (s : σ) :
    let run := i.perform server stamps arrivals s
    let run' := i'.perform server stamps arrivals s
    run'.1 = run.1 ∧ run'.2.stdout = run.2.stdout ∧ run'.2.journal = run.2.journal ∧
      SameChanges i.files i'.files run.2.files run'.2.files := by
  have hlogging : i'.settings.logging = i.settings.logging :=
    show i'.settings.withoutUrl.logging = i.settings.withoutUrl.logging by rw [hsame.settings]
  have hfilter := hsame.environment Logging.filterVariable (by decide)
  obtain ⟨hresult, hfiles⟩ := Logging.setUp_same hfilter hsame.files i.settings.logging
  have hdirectory : ∀ place, (Logging.setUp false i.environment i.settings.logging
      i.files).2.isDirectory place = true → i.files.isDirectory place = true :=
    fun _ => Logging.isDirectory_of_setUp
  intro run run'
  have hend : SameEnd i.files i'.files run run' := by
    simp only [run, run', Invocation.perform, perform, hlogging]
    generalize Logging.setUp false i.environment i.settings.logging i.files = opened
      at hresult hfiles hdirectory ⊢
    generalize Logging.setUp false i'.environment i.settings.logging i'.files = opened'
      at hresult hfiles ⊢
    obtain ⟨result, files⟩ := opened
    obtain ⟨result', files'⟩ := opened'
    cases hresult
    cases result with
    | error fault => exact ⟨rfl, hfiles, rfl, rfl⟩
    | ok =>
      -- The log file does not get in the way of the files that are read.
      have hsources : ∀ path ∈ i.line.order.sources, files.readText path = files'.readText path :=
        fun path hpath => Files.Tree.readText_congr hsame.files hfiles hdirectory
          (hsame.sources path hpath)
      have hworld : World.Same i.files i'.files (World.begin files s) (.begin files' s) :=
        ⟨hfiles, rfl, rfl⟩
      exact carryOut_same hserver u h (Database.Url.isPassword_of_unreserved hne hunreserved)
        hsame.files hworld hsame.settings hsame.order hsources hurl hurl' stamps arrivals
  exact ⟨hend.ending, hend.world.stdout, hend.world.journal, hend.world.files⟩

/-! ## A shop -/

def shopUrl : PasswordUrl where
  scheme := "postgres".toList
  user := "app".toList
  host := "%2Frun:5432".toList
  path := "shop".toList
  isScheme := by decide +kernel
  isUser := by simp
  isHost := by simp

/-- A schema, its mock data, and settings with a connection string. -/
def shopFiles (password : List Char) : Files.Tree :=
  (Files.Tree.ofFiles [("s.sql", .text "CREATE TABLE users (id INT);"),
    ("m.json", .text "\x7b\"users\": []\x7d")]).put ["work", "seedcheck.toml"]
    (.file (.text ("[database]\nadmin_url = \"" ++ shopUrl.dsn password ++ "\"\n")))

def shopSettings (password : List Char) : Settings :=
  { Settings.defaults with database :=
      { Settings.defaults.database with adminUrl := some (shopUrl.dsn password) } }

def shopRun (password : List Char)
    (h : Settings.load (shopFiles password) [] none = .ok (shopSettings password)) :
    Invocation where
  line := ⟨none, .run ⟨"s.sql", "m.json", none, true, some "report.json"⟩⟩
  environment := []
  files := shopFiles password
  settings := shopSettings password
  loads := h

theorem shopRun_sameButUrl {password password' : List Char}
    (h : Settings.load (shopFiles password) [] none = .ok (shopSettings password))
    (h' : Settings.load (shopFiles password') [] none = .ok (shopSettings password'))
    (hsources : ∀ path ∈ ["s.sql", "m.json"],
      (shopFiles password).readText path = (shopFiles password').readText path) :
    (shopRun password h).SameButUrl (shopRun password' h') where
  order := rfl
  settings := rfl
  environment _ _ := rfl
  files := Files.Tree.sameButContents_put _ _ _ _
  sources := hsources

theorem perform_hides_password_shop :
    let server := Scripted.server ⟨⟨[], [], none⟩, "/run", false, none, none⟩
    let stamps : Stamps := ⟨"1", "0", "", "", 0⟩
    ∃ h h',
      let i := shopRun "p%40ss:word".toList h
      let i' := shopRun "x".toList h'
      let run := i.perform server stamps [] ⟨0, 0⟩
      let run' := i'.perform server stamps [] ⟨0, 0⟩
      run.2.journal.events.head? =
        some (.cliRunStarted "1" "postgres://app:***@%2Frun:5432/shop") ∧
      run.1 = .done ∧
      run'.1 = run.1 ∧ run'.2.stdout = run.2.stdout ∧ run'.2.journal = run.2.journal ∧
        SameChanges i.files i'.files run.2.files run'.2.files := by
  intro server stamps
  -- The marks in this password are such as a URL admits there.
  have hpassword : IsPassword "p%40ss:word".toList :=
    ⟨by simp, by simp, by simp, "p@ss:word", by decide +kernel⟩
  have hne : "x".toList ≠ [] := by decide +kernel
  have hunreserved : ∀ c ∈ "x".toList, isUnreserved c = true := by simp [isUnreserved]
  have hsources : ∀ path ∈ ["s.sql", "m.json"], (shopFiles "p%40ss:word".toList).readText path =
      (shopFiles "x".toList).readText path := by decide +kernel
  refine ⟨by decide +kernel, by decide +kernel, by decide +kernel, by decide +kernel, ?_⟩
  exact perform_hides_password server (Scripted.ignoresPasswords _) shopUrl hpassword hne
    hunreserved _ _ (shopRun_sameButUrl _ _ hsources) rfl rfl stamps [] ⟨0, 0⟩

end Command

end SchemaSeed
