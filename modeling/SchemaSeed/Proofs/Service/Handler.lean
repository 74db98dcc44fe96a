import SchemaSeed.Proofs.Database.Alike
import SchemaSeed.Proofs.Database.Password
import SchemaSeed.Service.Handler

/-!
# Requests as visits

The handler of a request for a test makes one visit and answers with what came of it.
-/

namespace SchemaSeed.Service

open Database (Connect Ephemeral Interruption Course Journal Options Server Upshot visit)

variable {σ : Type} (server : Server σ) (config : Config)

/-- The answer to a request, after the visit that was made for it. If the clock broke the visit off,
there is none. -/
def conclude (requestId : String) :
    Upshot × Journal σ → Except Interruption Response × Journal σ
  | (.unprovided f, j) =>
    let message := Database.provisionMessage f
    (.ok (.error 500 "failed to provision database" (some message)),
      j.log (.provisionFailed requestId message))
  | (.ended outcome, j) => (.ok (respond outcome), j)
  | (.brokenOff .timeUp, j) =>
    (.ok (timedOut config.requestTimeout), j.log (.requestTimedOut requestId))
  | (.brokenOff .clockOverflow, j) => (.error .clockOverflow, j)

/-- The visit that is made for a request. Its time is limited, from when the database is there. -/
def visitFor (requestId databaseName : String) (test : TestRequest) (s : σ) :
    Upshot × Journal σ :=
  visit server config.admin config.options databaseName (some config.requestTimeout)
    test.schema test.mockData (.request requestId) s

/-- A request that was accepted is answered after one visit, and its log begins with its arrival. -/
theorem handleTest_eq {requestId databaseName : String} {r : Request} {test : TestRequest}
    (h : acceptTest r = some test) (j : Journal σ) :
    let visited := visitFor server config requestId databaseName test j.state
    handleTest server config requestId databaseName r j =
      conclude config requestId
        (visited.1, j.log (.requestReceived requestId) ++ visited.2) := by
  have htime := Database.create_ne_timeUp server config.admin config.options databaseName j.state
  rw [handleTest, h]
  dsimp only
  -- The visit starts with an empty journal; the handler has logged the request before.
  rw [Ephemeral.create_eq_append, visitFor, visit]
  simp only [show (j.log (.requestReceived requestId)).state = j.state from rfl]
  generalize Ephemeral.create server config.admin config.options databaseName
    (.begin j.state) = created at htime ⊢
  obtain ⟨result, k⟩ := created
  cases result with
  | error setback =>
    cases setback with
    | failure f => rfl
    | interruption i =>
      cases i with
      | timeUp => exact absurd rfl htime
      | clockOverflow => rfl
  | ok database =>
    dsimp only
    rw [runTest, Database.runOn_append]
    simp only [Journal.state_append, Database.limitAfter, Option.map_some]
    generalize Database.runOn server database.connect config.options _ test.schema test.mockData
      k = run
    obtain ⟨result, k'⟩ := run
    cases result with
    | ok outcome =>
      dsimp only [Database.leave]
      rw [Ephemeral.tearDown_append]
      rfl
    | error i =>
      cases i with
      | timeUp =>
        dsimp only [Database.leave]
        rw [Ephemeral.tearDown_append]
        rfl
      | clockOverflow => rfl

theorem sent_conclude (requestId : String) (upshot : Upshot) (j : Journal σ) :
    (conclude config requestId (upshot, j)).2.sent = j.sent := by
  cases upshot with
  | unprovided f => rfl
  | ended outcome => rfl
  | brokenOff i => cases i <;> rfl

/-- A request stays without an answer only if its visit was cut short. Timeouts and failures have
answers of their own. -/
theorem fst_conclude_eq_error_iff (requestId : String) (upshot : Upshot) (j : Journal σ) :
    (conclude config requestId (upshot, j)).1 = .error .clockOverflow ↔
      upshot = .brokenOff .clockOverflow := by
  cases upshot with
  | unprovided f => exact ⟨fun h => (nomatch h), fun h => (nomatch h)⟩
  | ended outcome => exact ⟨fun h => (nomatch h), fun h => (nomatch h)⟩
  | brokenOff i =>
    cases i with
    | timeUp => exact ⟨fun h => (nomatch h), fun h => (nomatch h)⟩
    | clockOverflow => exact ⟨fun _ => rfl, fun _ => rfl⟩

/-- Visits that are alike lead to the same answer. -/
theorem conclude_alike (requestId : String) (upshot : Upshot) {admin name name' : String}
    {j j' : Journal σ} (h : j.Alike admin name name' j') :
    (conclude config requestId (upshot, j')).1 = (conclude config requestId (upshot, j)).1 ∧
      (conclude config requestId (upshot, j)).2.Alike admin name name'
        (conclude config requestId (upshot, j')).2 := by
  cases upshot with
  | unprovided f => exact ⟨rfl, h.log _⟩
  | ended outcome => exact ⟨rfl, h⟩
  | brokenOff i =>
    cases i with
    | timeUp => exact ⟨rfl, h.log _⟩
    | clockOverflow => exact ⟨rfl, h⟩

/-- What the handler receives at this path and with this method is passed on to the handler of
tests. -/
theorem handle_eq_handleTest {r : Request} (hpath : r.path = "/test") (hmethod : r.method = "POST")
    (requestId databaseName : String) (j : Journal σ) :
    handle server config requestId databaseName r j =
      handleTest server config requestId databaseName r j := by
  rw [handle, if_pos hpath, if_pos hmethod]

/-! ## What the server receives for a request -/

/-- A request that is not accepted does not reach the database: it is answered at once. -/
theorem sent_handle_of_rejected (requestId databaseName : String) {r : Request} (hpath : r.path = "/test")
    (hmethod : r.method = "POST") (h : acceptTest r = none) (s : σ) :
    (handle server config requestId databaseName r (.begin s)).2.sent = [] := by
  rw [handle_eq_handleTest server config hpath hmethod, handleTest, h]
  rfl

/-- What the server receives for a request is the course of one visit. -/
theorem course_handle (requestId databaseName : String) {r : Request} (hpath : r.path = "/test")
    (hmethod : r.method = "POST") {test : TestRequest} (h : acceptTest r = some test)
    (s : σ) :
    let handled := handle server config requestId databaseName r (.begin s)
    Course server config.admin config.options databaseName s handled.2.sent
      (handled.1 = .error .clockOverflow) := by
  rw [handle_eq_handleTest server config hpath hmethod,
    handleTest_eq server config h]
  dsimp only
  rw [fst_conclude_eq_error_iff, sent_conclude]
  exact Database.course_visit server config.admin config.options databaseName _ test.schema
    test.mockData _ s

/-- Another answer to the dropping of the database changes nothing but the log. -/
theorem handle_alike {server' : Server σ} (requestId databaseName : String) {r : Request} (hpath : r.path = "/test")
    (hmethod : r.method = "POST")
    (h : server.Alike config.admin databaseName databaseName server') (s : σ) :
    let handled := handle server config requestId databaseName r (.begin s)
    let handled' := handle server' config requestId databaseName r (.begin s)
    handled'.1 = handled.1 ∧
      handled.2.Alike config.admin.databaseName databaseName databaseName handled'.2 := by
  rw [handle_eq_handleTest server config hpath hmethod,
    handle_eq_handleTest server' config hpath hmethod]
  -- A request that is not accepted does not come to either server.
  cases haccept : acceptTest r with
  | none =>
    rw [handleTest, handleTest, haccept]
    exact ⟨rfl, (Journal.Alike.begin s s).log _⟩
  | some test =>
    rw [handleTest_eq server config haccept, handleTest_eq server' config haccept]
    obtain ⟨hupshot, hjournal⟩ := Database.visit_alike h config.options
      (some config.requestTimeout) test.schema test.mockData (.request requestId)
      (.request requestId) s
    dsimp only [visitFor]
    rw [show (Journal.begin s).state = s from rfl, hupshot]
    exact conclude_alike config requestId _
      (((Journal.Alike.begin s s).log (.requestReceived requestId)).append hjournal)

/-! ## Passwords -/

def Config.withoutPassword (config : Config) : Config :=
  { config with admin := config.admin.withoutPassword }

variable {server}

/-- On a server that ignores passwords, every request is answered as if there were none. -/
theorem handle_withoutPassword (hserver : server.IgnoresPasswords)
    (requestId databaseName : String) (r : Request) (j : Journal σ) :
    handle server config.withoutPassword requestId databaseName r j =
      handle server config requestId databaseName r j := by
  have htest : handleTest server config.withoutPassword requestId databaseName r j =
      handleTest server config requestId databaseName r j := by
    cases haccept : acceptTest r with
    | none => rw [handleTest, handleTest, haccept]
    | some test =>
      have hvisit : visitFor server config.withoutPassword requestId databaseName test j.state =
          visitFor server config requestId databaseName test j.state :=
        Database.visit_withoutPassword hserver config.admin _ _ _ _ _ _ _
      rw [handleTest_eq server _ haccept, handleTest_eq server _ haccept, hvisit]
      rfl
  rw [handle, handle, htest]

end SchemaSeed.Service
