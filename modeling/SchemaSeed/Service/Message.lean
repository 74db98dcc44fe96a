import SchemaSeed.Content
import SchemaSeed.Json.Writer

/-!
# Requests and responses
-/

namespace SchemaSeed.Service

structure Request where
  method : String
  /-- The path, perhaps with a query. -/
  target : String
  contentType : Option String
  body : Content

structure Response where
  status : Nat
  contentType : Option String
  body : String
  deriving DecidableEq, Repr

namespace Response

def bare (status : Nat) : Response := ⟨status, none, ""⟩

def json (status : Nat) (v : Json.Value) : Response :=
  ⟨status, some "application/json", v.toCompact⟩

def error (status : Nat) (error : String) (details : Option String) : Response :=
  json status (.object (("error", .string error) ::
    (details.map fun d => ("details", .string d)).toList))

end Response

end SchemaSeed.Service
