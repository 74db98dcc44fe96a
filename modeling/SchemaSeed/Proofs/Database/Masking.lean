import SchemaSeed.Proofs.Database.Redact

/-!
# What redaction leaves alone

A connection string with a path falls into a scheme, the credentials, a place and a query
(`Dsn`). Redaction puts stars in place of the password and of the values of sensitive
parameters, and gives back all the rest as it was (`redact_masks_only_secrets`). What stands in
place of a password does not depend on it, whatever comes after the credentials
(`redact_hides_password`).
-/

namespace SchemaSeed.Database

/-! ## Passwords -/

/-- The password shows in no way: it may be replaced by any other, and what is shown stays the same.
Whatever follows the credentials may hold any marks. -/
theorem redact_hides_password (scheme user password password' tail : String)
    (hscheme : ¬ "://".toList <:+: scheme.toList)
    (huser : ':' ∉ user.toList ∧ '/' ∉ user.toList)
    (hpassword : '/' ∉ password.toList) (hpassword' : '/' ∉ password'.toList) :
    redact (scheme ++ "://" ++ user ++ ":" ++ password ++ "@" ++ tail) =
      redact (scheme ++ "://" ++ user ++ ":" ++ password' ++ "@" ++ tail) := by
  obtain ⟨location, hrest⟩ := redactRest_password huser.1 huser.2 tail.toList
  have hredact : ∀ password : String, '/' ∉ password.toList →
      redact (scheme ++ "://" ++ user ++ ":" ++ password ++ "@" ++ tail) =
        String.ofList (scheme.toList ++ "://".toList ++
          (user.toList ++ ':' :: mask ++ ['@'] ++ redactLocation location)) := by
    intro password hpassword
    have hparts : (scheme ++ "://" ++ user ++ ":" ++ password ++ "@" ++ tail).toList =
        scheme.toList ++ "://".toList ++
          (user.toList ++ ':' :: password.toList ++ '@' :: tail.toList) := by
      simp [String.toList_append]
    rw [redact, hparts, redacted_append hscheme, hrest password.toList hpassword]
  rw [hredact password hpassword, hredact password' hpassword']

/-- Marks of all kinds in the password and after it. -/
theorem redact_hides_password_marks :
    redact "postgres://app:p@ss?w:rd&x=@db:5432/shop?to=a://b:c@d" =
      redact "postgres://app:x@db:5432/shop?to=a://b:c@d" :=
  redact_hides_password "postgres" "app" "p@ss?w:rd&x=" "x" "db:5432/shop?to=a://b:c@d"
    (by decide +kernel) (by decide +kernel) (by decide +kernel) (by decide +kernel)

/-! ## Connection strings in parts -/

namespace Dsn

structure Credentials where
  user : List Char
  password? : Option (List Char)
  isUser : ':' ∉ user ∧ '/' ∉ user
  isPassword : ∀ password ∈ password?, '/' ∉ password

/-- A part of a query between ampersands: a key and, after the first equals sign, a value. -/
structure Parameter where
  key : List Char
  value? : Option (List Char)
  isKey : '=' ∉ key ∧ '&' ∉ key
  isValue : ∀ value ∈ value?, '&' ∉ value

def stars : List Char := ['*', '*', '*']

namespace Credentials

def text (c : Credentials) : List Char :=
  match c.password? with
  | some password => c.user ++ ':' :: password ++ ['@']
  | none => c.user ++ ['@']

def masked (c : Credentials) : Credentials where
  user := c.user
  password? := c.password?.map fun _ => stars
  isUser := c.isUser
  isPassword := by
    intro password hmem
    obtain ⟨_, _, rfl⟩ := Option.map_eq_some_iff.1 hmem
    decide

end Credentials

namespace Parameter

def text (p : Parameter) : List Char :=
  match p.value? with
  | some value => p.key ++ '=' :: value
  | none => p.key

/-- Whether the key, in any letter case, is one of those that name secrets. -/
def IsSensitive (p : Parameter) : Prop :=
  Text.toLowercase (String.ofList p.key) ∈
    ["password", "pass", "token", "sslpassword", "api_key", "apikey"]

instance (p : Parameter) : Decidable p.IsSensitive := by
  unfold IsSensitive
  infer_instance

def masked (p : Parameter) : Parameter where
  key := p.key
  value? := if p.IsSensitive then p.value?.map fun _ => stars else p.value?
  isKey := p.isKey
  isValue := by
    intro value hmem
    split at hmem
    · obtain ⟨_, _, rfl⟩ := Option.map_eq_some_iff.1 hmem
      decide
    · exact p.isValue value hmem

def joined (parameters : List Parameter) : List Char :=
  ['&'].intercalate (parameters.map text)

end Parameter

end Dsn

/-- A connection string with a path. Its parts are such that each begins where redaction looks for
it: the last `@` before the path, if there is one, ends the credentials. -/
structure Dsn where
  scheme : List Char
  credentials? : Option Dsn.Credentials
  /-- The host, perhaps with a port. -/
  host : List Char
  path : List Char
  query? : Option (List Dsn.Parameter)
  isScheme : ¬ "://".toList <:+: scheme
  isHost : '/' ∉ host ∧ '@' ∉ host ∧ '?' ∉ host
  isPath : '?' ∉ path

namespace Dsn

def place (d : Dsn) : List Char := d.host ++ '/' :: d.path

def location (d : Dsn) : List Char :=
  match d.query? with
  | some parameters => d.place ++ '?' :: Parameter.joined parameters
  | none => d.place

def rest (d : Dsn) : List Char :=
  match d.credentials? with
  | some c => c.text ++ d.location
  | none => d.location

def text (d : Dsn) : String := String.ofList (d.scheme ++ "://".toList ++ d.rest)

/-- The same, but for the password and the values of sensitive parameters. -/
def masked (d : Dsn) : Dsn :=
  { d with
    credentials? := d.credentials?.map Credentials.masked
    query? := d.query?.map (·.map Parameter.masked) }

/-- There is neither a password nor a parameter with a sensitive key. Such a connection string need
not be redacted. -/
structure IsPublic (d : Dsn) : Prop where
  credentials : ∀ c ∈ d.credentials?, c.password? = none
  query : ∀ parameters ∈ d.query?, ∀ p ∈ parameters, ¬ p.IsSensitive

/-! ### Parameters -/

namespace Parameter

/-- What redaction tests is what the definition says of the key. -/
theorem isSensitiveKey_iff (p : Parameter) : isSensitiveKey p.key = true ↔ p.IsSensitive := by
  rw [isSensitiveKey, List.contains_iff_mem, IsSensitive, Text.toLowercase, String.toList_ofList]
  rfl

/-- A parameter holds no ampersand, so that it stays one when the query is split. -/
theorem notMem_text (p : Parameter) : '&' ∉ p.text := by
  rw [text]
  cases hvalue : p.value? with
  | none => exact p.isKey.2
  | some value => simp [p.isKey.2, p.isValue value hvalue]

/-- The key of a text ends at its first equals sign. So every piece between ampersands is a
parameter, whatever it looks like. -/
theorem exists_text {piece : List Char} (h : '&' ∉ piece) : ∃ p : Parameter, p.text = piece := by
  by_cases hmem : '=' ∈ piece
  · obtain ⟨key, value, rfl, hkey⟩ := List.eq_append_cons_of_mem hmem
    have hends : '&' ∉ key ∧ '&' ∉ value := by simpa using h
    refine ⟨⟨key, some value, ⟨hkey, hends.1⟩, ?_⟩, rfl⟩
    rintro _ ⟨⟩
    exact hends.2
  · exact ⟨⟨piece, none, ⟨hmem, h⟩, fun _ hvalue => nomatch hvalue⟩, rfl⟩

/-- Every text is a query. It is split at its ampersands, and each piece is a parameter. -/
theorem exists_joined (query : List Char) :
    ∃ parameters : List Parameter, joined parameters = query := by
  have hpieces : ∀ pieces : List (List Char), (∀ piece ∈ pieces, '&' ∉ piece) →
      ∃ parameters : List Parameter, parameters.map text = pieces := by
    intro pieces
    induction pieces with
    | nil => exact fun _ => ⟨[], rfl⟩
    | cons piece pieces ih =>
      intro h
      obtain ⟨p, hp⟩ := exists_text (h piece List.mem_cons_self)
      obtain ⟨ps, hps⟩ := ih fun q hq => h q (List.mem_cons_of_mem _ hq)
      exact ⟨p :: ps, by rw [List.map_cons, hp, hps]⟩
  obtain ⟨parameters, hmap⟩ := hpieces (Text.split '&' query) fun piece hpiece =>
    Text.separator_notMem_of_mem_split hpiece
  exact ⟨parameters, by rw [joined, hmap, Text.intercalate_split]⟩

/-- A piece of the query is shown as the parameter with its secret masked. -/
theorem redactPair_text (p : Parameter) : redactPair p.text = p.masked.text := by
  cases hvalue : p.value? with
  | none =>
    -- Without an equals sign there is nothing to hide.
    have hmasked : p.masked.value? = none := by simp [masked, hvalue]
    simp only [text, hvalue, hmasked]
    rw [redactPair, Text.cut?_of_notMem p.isKey.1]
    rfl
  | some value =>
    by_cases hsensitive : p.IsSensitive
    · have hmasked : p.masked.value? = some stars := by simp [masked, hvalue, hsensitive]
      simp only [text, hvalue, hmasked]
      exact redactPair_sensitive p.isKey.1 (p.isSensitiveKey_iff.2 hsensitive) value
    · have hmasked : p.masked.value? = some value := by simp [masked, hvalue, hsensitive]
      have hkey : ¬ isSensitiveKey p.key = true := mt p.isSensitiveKey_iff.1 hsensitive
      simp only [text, hvalue, hmasked]
      rw [redactPair, Text.cut?_append p.isKey.1]
      exact if_neg hkey

/-- So is the whole query, parameter by parameter. -/
theorem redactQuery_joined (parameters : List Parameter) :
    redactQuery (joined parameters) = joined (parameters.map masked) := by
  cases parameters with
  | nil =>
    show redactQuery [] = []
    rw [redactQuery, Text.split_of_notMem List.not_mem_nil]
    rfl
  | cons p parameters =>
    have hends : ∀ piece ∈ (p :: parameters).map text, '&' ∉ piece := by
      intro piece hpiece
      obtain ⟨q, -, rfl⟩ := List.mem_map.1 hpiece
      exact q.notMem_text
    rw [joined, redactQuery_intercalate (by simp) hends, joined, List.map_map, List.map_map]
    congr 2
    exact funext redactPair_text

theorem masked_eq_self {p : Parameter} (h : ¬ p.IsSensitive) : p.masked = p := by
  simp only [masked, if_neg h]

end Parameter

/-! ### Credentials -/

namespace Credentials

/-- The credentials are shown with stars for the password, and all that follows is redacted on its
own. `hlocation` says that no other `@` ends them. -/
theorem redactRest_text (c : Credentials) {location : List Char}
    (hlocation : '@' ∉ location.takeWhile (· != '/')) :
    redactRest (c.text ++ location) = c.masked.text ++ redactLocation location := by
  cases hpassword : c.password? with
  | none =>
    have hmasked : c.masked.password? = none := by simp [masked, hpassword]
    simp only [text, hpassword, hmasked]
    rw [List.append_assoc, List.singleton_append, redactRest_append c.isUser.2 hlocation,
      redactCredentials, Text.cut?_of_notMem c.isUser.1]
    rfl
  | some password =>
    have hmasked : c.masked.password? = some stars := by simp [masked, hpassword]
    have hslash : '/' ∉ c.user ++ ':' :: password := by
      simp [c.isUser.2, c.isPassword password hpassword]
    simp only [text, hpassword, hmasked]
    rw [List.append_assoc, List.singleton_append, redactRest_append hslash hlocation,
      redactCredentials_append c.isUser.1]
    rfl

theorem masked_eq_self {c : Credentials} (h : c.password? = none) : c.masked = c := by
  obtain ⟨user, password?, isUser, isPassword⟩ := c
  cases h
  rfl

end Credentials

/-! ### The whole -/

variable (d : Dsn)

theorem question_notMem_place : '?' ∉ d.place := by
  simp [place, d.isHost.2.2, d.isPath]

/-- The path begins where the host ends, so that no `@` after it counts. Here the path is needed. -/
theorem takeWhile_location : d.location.takeWhile (· != '/') = d.host := by
  rw [location]
  cases d.query? with
  | none => exact Text.takeWhile_ne_append d.isHost.1 _
  | some parameters =>
    simp only [place, List.append_assoc, List.cons_append]
    exact Text.takeWhile_ne_append d.isHost.1 _

/-- The host and the path are shown as they are, and the query is redacted. -/
theorem redactLocation_location : redactLocation d.location = d.masked.location := by
  rw [location, location]
  cases hquery : d.query? with
  | none =>
    simp only [masked, hquery, Option.map_none]
    exact redactLocation_of_notMem d.question_notMem_place
  | some parameters =>
    simp only [masked, hquery, Option.map_some]
    rw [redactLocation_append d.question_notMem_place, Parameter.redactQuery_joined]
    rfl

theorem redactRest_rest : redactRest d.rest = d.masked.rest := by
  have hat : '@' ∉ d.location.takeWhile (· != '/') := by
    rw [takeWhile_location]
    exact d.isHost.2.1
  rw [rest, rest]
  cases hcredentials : d.credentials? with
  | none =>
    simp only [masked, hcredentials, Option.map_none]
    rw [redactRest_of_notMem hat]
    exact d.redactLocation_location
  | some c =>
    simp only [masked, hcredentials, Option.map_some]
    rw [c.redactRest_text hat]
    exact congrArg (c.masked.text ++ ·) d.redactLocation_location

/-- What is shown is the string with its secrets masked: the scheme, which holds none, and then the
rest. -/
theorem redact_text : redact d.text = d.masked.text := by
  rw [redact, text, String.toList_ofList, redacted_append d.isScheme, redactRest_rest]
  rfl

theorem masked_eq_self {d : Dsn} (h : d.IsPublic) : d.masked = d := by
  have hcredentials : d.credentials?.map Credentials.masked = d.credentials? := by
    cases hc : d.credentials? with
    | none => rfl
    | some c => rw [Option.map_some, Credentials.masked_eq_self (h.credentials c hc)]
  have hquery : d.query?.map (·.map Parameter.masked) = d.query? := by
    cases hq : d.query? with
    | none => rfl
    | some parameters =>
      have hpublic : ∀ p ∈ parameters, p.masked = p := fun p hp =>
        Parameter.masked_eq_self (h.query parameters hq p hp)
      rw [Option.map_some, List.map_congr_left hpublic, List.map_id']
  rw [masked, hcredentials, hquery]

end Dsn

/-- Stars stand in place of the password and of the values of sensitive parameters, and all the rest
is as it was. A string without secrets is shown unchanged. -/
theorem redact_masks_only_secrets :
    (∀ d : Dsn, redact d.text = d.masked.text) ∧
    (∀ d : Dsn, d.IsPublic → redact d.text = d.text) ∧
    -- There is no query that does not fall into parameters.
    ∀ query : List Char, ∃ parameters : List Dsn.Parameter,
      Dsn.Parameter.joined parameters = query := by
  refine ⟨Dsn.redact_text, fun d h => ?_, Dsn.Parameter.exists_joined⟩
  rw [Dsn.redact_text, Dsn.masked_eq_self h]

/-- Marks of all kinds and odd parameters, and nothing that is secret. -/
theorem redact_masks_only_secrets_marks :
    let d : Dsn := {
      scheme := "postgres".toList
      credentials? := some ⟨"u@x?".toList, some "p:@ss?".toList, by decide,
        by rintro _ ⟨⟩; decide⟩
      host := "db:5432".toList
      path := "a@b/c:d".toList
      query? := some [⟨[], some [], by decide, by rintro _ ⟨⟩; decide⟩,
        ⟨"Token".toList, some "a=b".toList, by decide, by rintro _ ⟨⟩; decide⟩,
        ⟨"pass".toList, none, by decide, by rintro _ ⟨⟩⟩,
        ⟨"k".toList, some "=password?".toList, by decide, by rintro _ ⟨⟩; decide⟩]
      isScheme := fun h =>
        absurd (h.subset (by decide : ':' ∈ "://".toList)) (by decide)
      isHost := by decide
      isPath := by decide }
    let plain : Dsn := { d with
      credentials? := some ⟨"u@x?".toList, none, by decide, by rintro _ ⟨⟩⟩
      query? := none }
    (d.text = "postgres://u@x?:p:@ss?@db:5432/a@b/c:d?=&Token=a=b&pass&k==password?" ∧
      redact d.text = "postgres://u@x?:***@db:5432/a@b/c:d?=&Token=***&pass&k==password?") ∧
    plain.text = "postgres://u@x?@db:5432/a@b/c:d" ∧ redact plain.text = plain.text := by
  intro d plain
  refine ⟨⟨by decide +kernel, ?_⟩, by decide +kernel, ?_⟩
  · rw [redact_masks_only_secrets.1 d]
    decide +kernel
  · have hpublic : plain.IsPublic := by
      constructor
      · rintro _ ⟨⟩
        rfl
      · rintro _ ⟨⟩
    exact redact_masks_only_secrets.2.1 plain hpublic

end SchemaSeed.Database
