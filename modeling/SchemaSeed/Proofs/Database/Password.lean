import SchemaSeed.Proofs.Database.Url
import SchemaSeed.Proofs.Database.Visit

/-!
# Servers and passwords

A password is used to connect and for nothing else. On a server that greets all passwords
alike, whatever is done over a connection is done in the same way over the connection with
another password, or with none.
-/

namespace SchemaSeed.Database

variable {σ : Type}

/-- The server behaves in the same way whatever the password is. Of a server that checks passwords
nothing could be said, since a wrong one would be refused. -/
def Server.IgnoresPasswords (server : Server σ) : Prop :=
  ∀ (c : Connect) (password : Option String),
    server.greet { c with password } = server.greet c

namespace Connect

/-- The password has no part in the name of the database. -/
theorem databaseName_withoutPassword (c : Connect) :
    c.withoutPassword.databaseName = c.databaseName := rfl

theorem withoutPassword_toDatabase (c : Connect) (name : String) :
    (c.toDatabase name).withoutPassword = c.withoutPassword.toDatabase name := rfl

end Connect

variable {server : Server σ} (hserver : server.IgnoresPasswords)

include hserver

/-- Opening a pool asks the server only, and so its password may be left out. -/
theorem openPool_withoutPassword (c : Connect) (maxConnections acquireTimeout : Nat)
    (limit : Option Nat) (s : σ) :
    openPool server c.withoutPassword maxConnections acquireTimeout limit s =
      openPool server c maxConnections acquireTimeout limit s :=
  openPool_congr rfl rfl (hserver c none) maxConnections acquireTimeout limit s

/-- A run sends its statements to a database by name, and connects before. -/
theorem runOn_withoutPassword (c : Connect) (options : Options) (limit : Option Nat)
    (schema mockData : String) (j : Journal σ) :
    runOn server c.withoutPassword options limit schema mockData j =
      runOn server c options limit schema mockData j := by
  have hready : connectWhenReady server c.withoutPassword options limit j =
      connectWhenReady server c options limit j :=
    connectWhenReady_congr rfl rfl (hserver c none) options limit j
  rw [runOn_eq, runOn_eq, hready, Connect.databaseName_withoutPassword]

/-- The same for a whole visit: the connection of the administrator and that of the run carry the
same password. -/
theorem visit_withoutPassword (admin : Connect) (options : Options) (name : String)
    (timeout : Option Nat) (schema mockData : String) (work : WorkId) (s : σ) :
    visit server admin.withoutPassword options name timeout schema mockData work s =
      visit server admin options name timeout schema mockData work s := by
  have hleave : leave server ⟨admin.withoutPassword, name⟩ work =
      leave server ⟨admin, name⟩ work := rfl
  rw [visit_eq, visit_eq, openPool_withoutPassword hserver, hleave,
    ← Connect.withoutPassword_toDatabase]
  simp only [runOn_withoutPassword hserver]
  rfl

end SchemaSeed.Database
