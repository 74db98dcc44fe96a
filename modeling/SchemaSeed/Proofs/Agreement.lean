import SchemaSeed.Database.Scripted
import SchemaSeed.Proofs.Command.Run
import SchemaSeed.Proofs.Report
import SchemaSeed.Proofs.Service.Handler
import SchemaSeed.Proofs.Service.TestRequest

/-!
# Requests and runs agree

A request and a run that ask for the same test make the same visit, each to a database of its
own, unless the time for the request is up. What came of the visit is then told by the
response as well as by what the run prints and how it ends.
-/

namespace SchemaSeed

open Command (RunArguments Stamps plan runOnce)
open Database (Journal Scripted Sent Server Upshot)
open Service (Config Request RequestText Response handle)

/-! ## Responses -/

namespace Service.Response

/-- A response tells what went wrong, and the details, so that two equal ones say the same. -/
theorem error_inj {status status' : Nat} {error error' details details' : String}
    (h : Response.error status error (some details) =
      Response.error status' error' (some details')) : error = error' ∧ details = details' := by
  have htext := String.ofList_inj.1 (congrArg Response.body h)
  have hmembers := Json.isPrefixCode_compact_stringMembers.injective
    (x := [("error", error), ("details", details)])
    (y := [("error", error'), ("details", details')]) htext
  cases hmembers
  exact ⟨rfl, rfl⟩

/-- A report is not taken for a failure, already by the status. -/
theorem json_ne_error (v : Json.Value) (error : String) (details : Option String) :
    json 200 v ≠ Response.error 500 error details := fun h => by
  have hstatus := congrArg Response.status h
  cases hstatus

/-- A report can be recovered from the response that carries it. -/
theorem json_report_iff {r r' : Report} : json 200 r.toJson = json 200 r'.toJson ↔ r = r' :=
  ⟨fun h => Report.eq_of_toCompact (congrArg Response.body h), fun h => by rw [h]⟩

end Service.Response

/-! ## Tests asked for twice -/

/-- A request and a run that ask for the same test over the same connection. How the body is written
and where the files are is left open. -/
structure SameTest (config : Config) (r : Request) (settings : Settings)
    (arguments : RunArguments) (files : Files.Tree) (schema mockData : String) : Prop where
  path : r.path = "/test"
  method : r.method = "POST"
  isJson : (r.contentType.bind Service.MediaType.parse).any Service.MediaType.isJson = true
  byteCount : r.body.byteCount ≤ 2 * 1024 * 1024
  body : ∃ t : RequestText schema mockData, r.body = .text t.text
  ephemeral : arguments.ephemeral = true
  /-- No document is written. -/
  out : arguments.out = none
  readSchema : files.readText arguments.schema = .ok schema
  readMockData : files.readText arguments.mockData = .ok mockData
  connect : ∃ url, arguments.databaseUrl.or settings.database.adminUrl = some url ∧
    Database.Url.parse url = .ok config.admin
  options : settings.options = config.options

namespace SameTest

variable {config : Config} {r : Request} {settings : Settings} {arguments : RunArguments}
  {files : Files.Tree} {schema mockData : String}

/-- Such a request is accepted as the test it asks for. -/
theorem acceptTest (h : SameTest config r settings arguments files schema mockData) :
    Service.acceptTest r = some ⟨schema, mockData⟩ := by
  obtain ⟨t, hbody⟩ := h.body
  exact Service.acceptTest_text t h.isJson hbody h.byteCount

/-- And there is a plan for such a run. Its URL may be spelled in any way that leads to the
connection. -/
theorem exists_plan (h : SameTest config r settings arguments files schema mockData) :
    ∃ url, plan settings arguments files = .ok ⟨schema, mockData, url, config.admin⟩ := by
  obtain ⟨url, hurl, hparse⟩ := h.connect
  refine ⟨url, ?_⟩
  simp only [plan, h.readSchema, h.readMockData, hurl, hparse]
  rfl

end SameTest

/-! ## Agreement -/

/-- A response and the end of a run that say the same. The four cases are all there are, and exclude
each other. -/
structure Agree (response : Except Database.Interruption Response) (ending : Command.Ending)
    (stdout : String) : Prop where
  completed : ∀ report : Report, response = .ok (.json 200 report.toJson) ↔
    ending = .done ∧ stdout = report.toJson.toPretty ++ "\n"
  aborted : ∀ details, response = .ok (.error 500 "failed to run tests" (some details)) ↔
    ending = .failed (.aborted details)
  unprovided : ∀ details,
    response = .ok (.error 500 "failed to provision database" (some details)) ↔
      ending = .failed (.provision details)
  /-- There is no other response, except that both can be broken off. -/
  exhausted : (∃ report : Report, response = .ok (.json 200 report.toJson)) ∨
    (∃ details, response = .ok (.error 500 "failed to run tests" (some details))) ∨
    (∃ details, response = .ok (.error 500 "failed to provision database" (some details))) ∨
    ∃ i, response = .error i ∧ ending = .brokenOff i

/-- A report can also be recovered from what is printed of it, since the printed text is read as one
document. -/
theorem stdout_inj {r r' : Report} :
    r.toJson.toPretty ++ "\n" = r'.toJson.toPretty ++ "\n" ↔ r = r' := by
  refine ⟨fun h => Report.eq_of_toPretty ?_, fun h => by rw [h]⟩
  -- Both texts end in the same line break.
  have htext := congrArg String.toList h
  rw [String.toList_append, String.toList_append] at htext
  exact String.toList_inj.1 (List.append_cancel_right htext)

theorem Agree.of_completed (report : Report) :
    Agree (.ok (.json 200 report.toJson)) .done (report.toJson.toPretty ++ "\n") where
  completed report' := by
    rw [Except.ok.injEq, Response.json_report_iff, stdout_inj]
    exact ⟨fun h => ⟨rfl, h⟩, And.right⟩
  aborted details :=
    ⟨fun h => absurd (Except.ok.inj h) (Response.json_ne_error _ _ _), fun h => nomatch h⟩
  unprovided details :=
    ⟨fun h => absurd (Except.ok.inj h) (Response.json_ne_error _ _ _), fun h => nomatch h⟩
  exhausted := .inl ⟨report, rfl⟩

theorem Agree.of_aborted (details stdout : String) :
    Agree (.ok (.error 500 "failed to run tests" (some details))) (.failed (.aborted details))
      stdout where
  completed report :=
    ⟨fun h => absurd (Except.ok.inj h).symm (Response.json_ne_error _ _ _), fun h => nomatch h.1⟩
  aborted details' :=
    ⟨fun h => by rw [(Response.error_inj (Except.ok.inj h)).2], fun h => by cases h; rfl⟩
  unprovided details' :=
    ⟨fun h => absurd (Response.error_inj (Except.ok.inj h)).1 (by decide), fun h => nomatch h⟩
  exhausted := .inr (.inl ⟨details, rfl⟩)

theorem Agree.of_unprovided (details stdout : String) :
    Agree (.ok (.error 500 "failed to provision database" (some details)))
      (.failed (.provision details)) stdout where
  completed report :=
    ⟨fun h => absurd (Except.ok.inj h).symm (Response.json_ne_error _ _ _), fun h => nomatch h.1⟩
  aborted details' :=
    ⟨fun h => absurd (Response.error_inj (Except.ok.inj h)).1 (by decide), fun h => nomatch h⟩
  unprovided details' :=
    ⟨fun h => by rw [(Response.error_inj (Except.ok.inj h)).2], fun h => by cases h; rfl⟩
  exhausted := .inr (.inr (.inl ⟨details, rfl⟩))

theorem Agree.of_brokenOff (i : Database.Interruption) (stdout : String) :
    Agree (.error i) (.brokenOff i) stdout where
  completed _ := ⟨fun h => (nomatch h), fun h => (nomatch h.1)⟩
  aborted _ := ⟨fun h => (nomatch h), fun h => (nomatch h)⟩
  unprovided _ := ⟨fun h => (nomatch h), fun h => (nomatch h)⟩
  exhausted := .inr (.inr (.inr ⟨i, rfl, rfl⟩))

/-- Whatever came of a visit, the response and the command say the same of it. One case for each
upshot; a timeout has none on the command line. -/
theorem agree_of_visit {σ : Type} (config : Config) (requestId : String) (stamps : Stamps)
    (p : Command.Plan) {upshot : Upshot} (htime : upshot ≠ .brokenOff .timeUp) (j : Journal σ)
    {w : Command.World σ} (hstdout : w.stdout = "") :
    let delivered := Command.deliver stamps none p upshot w
    Agree (Service.conclude config requestId (upshot, j)).1 delivered.1 delivered.2.stdout := by
  cases upshot with
  | unprovided f => exact .of_unprovided _ _
  | ended outcome =>
    cases outcome with
    | completed report =>
      dsimp only [Command.deliver, Command.found, Command.publish]
      rw [hstdout, String.empty_append]
      exact .of_completed report
    | aborted report error => exact .of_aborted _ _
  | brokenOff i =>
    cases i with
    | timeUp => exact absurd rfl htime
    | clockOverflow => exact .of_brokenOff _ _

/-- The time for a request was up only if the log says so. -/
theorem ne_timeUp_of_conclude {σ : Type} {config : Config} {requestId : String} {upshot : Upshot}
    {j : Journal σ} (h : .requestTimedOut requestId ∉
      (Service.conclude config requestId (upshot, j)).2.events) : upshot ≠ .brokenOff .timeUp := by
  rintro rfl
  exact h (List.mem_append_right _ List.mem_cons_self)

/-- A request and a run for the same test make the same visit, but for the name of the database and
for the timeout, which does not fire. -/
theorem visitFor_alike {σ : Type} {server server' : Server σ} {config : Config}
    {options : Database.Options} (hoptions : options = config.options)
    {schema mockData : String} (url : String) {requestId databaseName : String} {stamps : Stamps}
    (halike : server.Alike config.admin databaseName (Database.ephemeralName stamps.databaseId)
      server') {s : σ}
    (htime : (Service.visitFor server config requestId databaseName ⟨schema, mockData⟩ s).1 ≠
      .brokenOff .timeUp) :
    let visited := Service.visitFor server config requestId databaseName ⟨schema, mockData⟩ s
    let visited' := Command.visitFor server' options stamps ⟨schema, mockData, url, config.admin⟩ s
    visited'.1 = visited.1 ∧ visited.2.Alike config.admin.databaseName databaseName
      (Database.ephemeralName stamps.databaseId) visited'.2 := by
  subst hoptions
  -- Without its timeout, the visit for the request is one that can be made for a run.
  have hvisits := Database.visit_alike halike config.options none schema mockData
    (.request requestId) (.run stamps.runId) s
  rw [← Database.visit_of_ne_timeUp htime] at hvisits
  exact hvisits

/-- A test that is asked for over HTTP and on the command line goes the same way. Both read
one clock, so even the times in the two reports are the same. -/
theorem http_agrees_with_command {σ : Type} {server server' : Server σ} {config : Config}
    {r : Request} {settings : Settings} {arguments : RunArguments} {files : Files.Tree}
    {schema mockData : String}
    (htest : SameTest config r settings arguments files schema mockData)
    (requestId databaseName : String) (stamps : Stamps)
    (halike : server.Alike config.admin databaseName (Database.ephemeralName stamps.databaseId)
      server') (s : σ)
    (htime : .requestTimedOut requestId ∉
      (handle server config requestId databaseName r (.begin s)).2.events) :
    let handled := handle server config requestId databaseName r (.begin s)
    let run := runOnce server' settings arguments stamps (.begin files s)
    List.Forall₂ (Sent.Alike config.admin.databaseName databaseName
      (Database.ephemeralName stamps.databaseId)) handled.2.sent run.2.journal.sent ∧
    Agree handled.1 run.1 run.2.stdout := by
  obtain ⟨url, hplan⟩ := htest.exists_plan
  rw [Service.handle_eq_handleTest server config htest.path htest.method,
    Service.handleTest_eq server config htest.acceptTest] at htime ⊢
  have hupshot := ne_timeUp_of_conclude htime
  obtain ⟨hsame, hjournal⟩ := visitFor_alike htest.options url halike hupshot
  dsimp only
  -- Besides the visits, both sides only log and print.
  rw [Command.runOnce_of_plan_ok server' (w := .begin files s) htest.ephemeral hplan, htest.out,
    Service.sent_conclude, Command.sent_deliver]
  rw [← hsame] at hupshot ⊢
  exact ⟨hjournal.sent, agree_of_visit config requestId stamps _ hupshot _ rfl⟩

/-- A server that turns no one away tells databases apart only by what is executed. Used for the
examples. -/
theorem Database.Scripted.alike (sc : Scripted) (hsilence : sc.silence = none)
    (hrefusal : sc.refusal = none) (admin : Database.Connect) {name name' : String}
    (hcreate : sc.answer (Database.Ephemeral.createStatement name') =
      sc.answer (Database.Ephemeral.createStatement name)) :
    sc.server.Alike admin name name' sc.server where
  now := rfl
  sleep := rfl
  greet_admin := rfl
  greet_own := by
    funext s
    show sc.greet _ s = sc.greet _ s
    simp only [Scripted.greet, Scripted.refusalFor, hsilence, hrefusal, Database.Connect.toDatabase]
    rfl
  ping_own := rfl
  create := by
    funext s
    exact congrArg (fun answer => (answer.mapError Database.Failure.answered, s)) hcreate
  execute_own := rfl

/-- Mock data of one table without rows, derived by the grammar step by step. -/
theorem derives_noRows : Json.Derives .value "\x7b\"users\":[]\x7d".toList := by
  have hkey := (Json.spells_escaped ['u', 's', 'e', 'r', 's']).isCharacters
  have hrows := Json.Derives.emptyArray Json.isSpaces_nil
  exact .object (.lastMember (.member Json.isSpaces_nil hkey Json.isSpaces_nil
    (.element Json.isSpaces_nil hrows Json.isSpaces_nil)))

/-- A request and a run on a server that accepts everything. -/
theorem http_agrees_with_command_shop :
    let server := Scripted.server ⟨⟨[], [], none⟩, "/run", false, none, none⟩
    let config : Config :=
      ⟨⟨.directory "/run", 5432, some "app", none, some "shop"⟩, ⟨5, 10, 30⟩, 120⟩
    let r : Request := ⟨"POST", "/test", some "application/json", .text
      "\x7b\"schema\":\"CREATE TABLE users (id INT);\",\"mock_data\":\x7b\"users\":[]\x7d\x7d"⟩
    let files := Files.Tree.ofFiles [("s.sql", .text "CREATE TABLE users (id INT);"),
      ("m.json", .text "\x7b\"users\":[]\x7d")]
    let arguments : RunArguments :=
      ⟨"s.sql", "m.json", some "postgres://app@%2Frun/shop", true, none⟩
    let run := runOnce server Settings.defaults arguments ⟨"1", "0", "", "", 0⟩
      (.begin files ⟨0, 0⟩)
    ∃ report : Report,
      (handle server config "1" "seedcheck_1" r (.begin ⟨0, 0⟩)).1 =
        .ok (.json 200 report.toJson) ∧ run.2.stdout = report.toJson.toPretty ++ "\n" := by
  intro server config r files arguments run
  -- The condition on the two texts is checked piece by piece.
  have htest : SameTest config r Settings.defaults arguments files "CREATE TABLE users (id INT);"
      "\x7b\"users\":[]\x7d" := {
    path := by decide +kernel
    method := rfl
    isJson := by decide +kernel
    byteCount := by decide +kernel
    body := ⟨.ofMockData "CREATE TABLE users (id INT);" derives_noRows, by decide +kernel⟩
    ephemeral := rfl
    out := rfl
    readSchema := by decide +kernel
    readMockData := by decide +kernel
    connect := ⟨"postgres://app@%2Frun/shop", rfl, by decide +kernel⟩
    options := rfl }
  have halike : server.Alike config.admin "seedcheck_1" (Database.ephemeralName "0") server :=
    Scripted.alike _ rfl rfl config.admin (by decide +kernel)
  have htime : .requestTimedOut "1" ∉
      (handle server config "1" "seedcheck_1" r (.begin ⟨0, 0⟩)).2.events := by
    rw [Service.handle_eq_handleTest server config htest.path htest.method,
      Service.handleTest_eq server config htest.acceptTest]
    decide +kernel
  have hdone : run.1 = .done := by decide +kernel
  obtain ⟨-, hagree⟩ := http_agrees_with_command htest "1" "seedcheck_1" ⟨"1", "0", "", "", 0⟩
    halike ⟨0, 0⟩ htime
  rcases hagree.exhausted with ⟨report, hreport⟩ | ⟨details, h⟩ | ⟨details, h⟩ | ⟨i, -, h⟩
  · exact ⟨report, hreport, ((hagree.completed report).1 hreport).2⟩
  · cases hdone.symm.trans ((hagree.aborted details).1 h)
  · cases hdone.symm.trans ((hagree.unprovided details).1 h)
  · cases hdone.symm.trans h

end SchemaSeed
