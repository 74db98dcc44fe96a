import SchemaSeed.Database.Redact
import SchemaSeed.Proofs.Text.Split

/-!
# What redaction hides

The credentials are cut off first, at the last `@` before the path, and what is left is
searched for parameters. So a password is hidden whatever surrounds it
(`redactRest_password`). The value of a sensitive parameter is hidden if the cut is made
where the credentials end (`redactRest_parameters`): when there is a path before the query,
or no `@` in the query up to its first slash. Otherwise part of the query passes for
credentials or a host, and is shown (`redact_shows_parameter`).
-/

namespace SchemaSeed.Database

variable {scheme place query rest credentials tail user password key value : List Char}

/-! ## The scheme -/

/-- The scheme ends at the first mark. That the text before it holds none does not rule out an
overlap, of which the cases are looked at. -/
theorem cutScheme_append (h : ¬ "://".toList <:+: scheme) (rest : List Char) :
    cutScheme (scheme ++ "://".toList ++ rest) = some (scheme ++ "://".toList, rest) := by
  induction scheme with
  | nil => rfl
  | cons c scheme ih =>
    have hinner : ¬ "://".toList <:+: scheme := fun hfound =>
      h (hfound.trans (List.suffix_cons c scheme).isInfix)
    rw [List.cons_append, List.cons_append, cutScheme, ih hinner]
    · rfl
    · -- The mark would have to begin in the scheme, and to end there or overlap itself.
      rintro tail rfl hmark
      cases scheme with
      | nil => cases hmark
      | cons d scheme =>
        cases scheme with
        | nil => cases hmark
        | cons e scheme =>
          cases hmark
          exact h ⟨[], scheme, rfl⟩

/-- The scheme is shown, and all the rest is redacted. -/
theorem redacted_append (h : ¬ "://".toList <:+: scheme) (rest : List Char) :
    redacted (scheme ++ "://".toList ++ rest) = scheme ++ "://".toList ++ redactRest rest := by
  rw [redacted, cutScheme_append h]

/-! ## The credentials -/

/-- The credentials end at an `@` that none follows before the path. The last one counts, so that a
password may hold others. -/
theorem redactRest_append (hcredentials : '/' ∉ credentials)
    (htail : '@' ∉ tail.takeWhile (· != '/')) :
    redactRest (credentials ++ '@' :: tail) =
      redactCredentials credentials ++ redactLocation tail := by
  have hfront : '/' ∉ credentials ++ ['@'] := by simp [hcredentials]
  have hauthority : (credentials ++ '@' :: tail).takeWhile (· != '/') =
      credentials ++ '@' :: tail.takeWhile (· != '/') := by
    have happend := Text.takeWhile_ne_append_of_notMem hfront tail
    rwa [List.append_assoc, List.append_assoc, List.singleton_append,
      List.singleton_append] at happend
  have hpath : (credentials ++ '@' :: tail).dropWhile (· != '/') =
      tail.dropWhile (· != '/') := by
    have happend := Text.dropWhile_ne_append_of_notMem hfront tail
    rwa [List.append_assoc, List.singleton_append] at happend
  simp only [redactRest, hauthority, hpath, Text.cutLast?_append htail,
    List.takeWhile_append_dropWhile]

/-- Without an `@` before the path there are no credentials, and everything is host, path and query.
-/
theorem redactRest_of_notMem (h : '@' ∉ rest.takeWhile (· != '/')) :
    redactRest rest = redactLocation rest := by
  simp only [redactRest, Text.cutLast?_of_notMem h, List.takeWhile_append_dropWhile]

/-- An `@` before the path leaves one that ends the credentials, namely the last one there. -/
theorem exists_credentials (h : '@' ∈ rest.takeWhile (· != '/')) :
    ∃ credentials tail, '/' ∉ credentials ∧ '@' ∉ tail.takeWhile (· != '/') ∧
      rest = credentials ++ '@' :: tail := by
  obtain ⟨credentials, host, hhost, hauthority⟩ := Text.exists_cutLast? h
  have hslash : '/' ∉ credentials ++ '@' :: host := hauthority ▸ Text.notMem_takeWhile_ne rest
  have hends : '/' ∉ host := fun hmem => hslash (by simp [hmem])
  refine ⟨credentials, host ++ rest.dropWhile (· != '/'), fun hmem => hslash (by simp [hmem]),
    ?_, ?_⟩
  · -- The path begins with a slash, or there is none.
    have hpath : (rest.dropWhile (· != '/')).takeWhile (· != '/') = [] := by
      cases hdrop : rest.dropWhile (· != '/') with
      | nil => rfl
      | cons c path =>
        have hc := List.head?_dropWhile_not (· != '/') rest
        rw [hdrop] at hc
        exact List.takeWhile_cons_of_neg (by simpa using hc)
    rwa [Text.takeWhile_ne_append_of_notMem hends, hpath, List.append_nil]
  · rw [← List.cons_append, ← List.append_assoc, ← hauthority, List.takeWhile_append_dropWhile]

/-- The password begins at the first colon, behind the user, so that it may hold more of them. -/
theorem redactCredentials_append (huser : ':' ∉ user) (password : List Char) :
    redactCredentials (user ++ ':' :: password) = user ++ ':' :: mask ++ ['@'] := by
  rw [redactCredentials, Text.cut?_append huser]

/-- What is shown instead of credentials with a password is the same for every password, whatever
follows them. An `@` in what follows may take more of the text into the credentials, but that part
does not depend on the password, either. -/
theorem redactRest_password (huser : ':' ∉ user) (hslash : '/' ∉ user) (tail : List Char) :
    ∃ location, ∀ password : List Char, '/' ∉ password →
      redactRest (user ++ ':' :: password ++ '@' :: tail) =
        user ++ ':' :: mask ++ ['@'] ++ redactLocation location := by
  by_cases hat : '@' ∈ tail.takeWhile (· != '/')
  · -- The credentials go on to the last `@`.
    obtain ⟨front, back, hfront, hback, rfl⟩ := exists_credentials hat
    refine ⟨back, fun password hpassword => ?_⟩
    have hcredentials : '/' ∉ user ++ ':' :: (password ++ '@' :: front) := by
      simp [hslash, hpassword, hfront]
    have happend := redactRest_append hcredentials hback
    rwa [redactCredentials_append huser, List.append_assoc, List.cons_append, List.append_assoc,
      List.cons_append, ← List.cons_append, ← List.append_assoc] at happend
  · refine ⟨tail, fun password hpassword => ?_⟩
    have hcredentials : '/' ∉ user ++ ':' :: password := by simp [hslash, hpassword]
    rw [redactRest_append hcredentials hat, redactCredentials_append huser]

/-! ## Parameters -/

theorem redactLocation_append (h : '?' ∉ place) (query : List Char) :
    redactLocation (place ++ '?' :: query) = place ++ '?' :: redactQuery query := by
  rw [redactLocation, Text.cut?_append h]

theorem redactLocation_of_notMem (h : '?' ∉ place) : redactLocation place = place := by
  rw [redactLocation, Text.cut?_of_notMem h]

/-- A query is redacted by itself if no `@` in it can end the credentials. There is none if a path
comes first, since only what stands before it is searched. -/
theorem redactRest_parameters (hplace : '?' ∉ place)
    (h : '/' ∈ place ∨ '@' ∉ query.takeWhile (· != '/')) :
    redactRest (place ++ '?' :: query) = redactRest place ++ '?' :: redactQuery query := by
  -- The first slash of the query counts only if the place has none.
  have hfollows : ∀ cs : List Char, '@' ∉ cs.takeWhile (· != '/') → ('/' ∈ place → '/' ∈ cs) →
      '@' ∉ (cs ++ '?' :: query).takeWhile (· != '/') := by
    intro cs hcs hslash
    by_cases hmem : '/' ∈ cs
    · obtain ⟨front, back, rfl, hfront⟩ := List.eq_append_cons_of_mem hmem
      rw [Text.takeWhile_ne_append hfront] at hcs
      rwa [List.append_assoc, List.cons_append, Text.takeWhile_ne_append hfront]
    · have hquery : '@' ∉ query.takeWhile (· != '/') := h.resolve_left (mt hslash hmem)
      rw [Text.takeWhile_ne_of_notMem hmem] at hcs
      rw [Text.takeWhile_ne_append_of_notMem hmem, List.takeWhile_cons_of_pos (by decide)]
      simp [hcs, hquery]
  -- Credentials, if there are any, end before the query.
  by_cases hat : '@' ∈ place.takeWhile (· != '/')
  · obtain ⟨credentials, tail, hcredentials, htail, rfl⟩ := exists_credentials hat
    have hquestion : '?' ∉ tail := fun hmem => hplace (by simp [hmem])
    have hslash : '/' ∈ credentials ++ '@' :: tail → '/' ∈ tail := by
      simp [hcredentials]
    rw [List.append_assoc, List.cons_append,
      redactRest_append hcredentials (hfollows tail htail hslash),
      redactRest_append hcredentials htail, redactLocation_append hquestion,
      redactLocation_of_notMem hquestion, List.append_assoc]
  · rw [redactRest_of_notMem (hfollows place hat id), redactRest_of_notMem hat,
      redactLocation_append hplace, redactLocation_of_notMem hplace]

theorem redactQuery_intercalate {pairs : List (List Char)} (hne : pairs ≠ [])
    (h : ∀ pair ∈ pairs, '&' ∉ pair) :
    redactQuery (['&'].intercalate pairs) = ['&'].intercalate (pairs.map redactPair) := by
  rw [redactQuery, Text.split_intercalate hne h]

theorem redactPair_sensitive (hkey : '=' ∉ key) (hsensitive : isSensitiveKey key = true)
    (value : List Char) : redactPair (key ++ '=' :: value) = key ++ '=' :: mask := by
  rw [redactPair, Text.cut?_append hkey]
  exact if_pos hsensitive

/-- A connection string in which the value of one sensitive parameter is left open. All other parts
are given, and may be any that fit. -/
structure SensitiveParameter where
  scheme : List Char
  /-- The authority and the path, if there is one. -/
  place : List Char
  before : List (List Char)
  key : List Char
  after : List (List Char)
  scheme_ends : ¬ "://".toList <:+: scheme
  place_ends : '?' ∉ place
  isPair_before : ∀ pair ∈ before, '&' ∉ pair
  isPair_after : ∀ pair ∈ after, '&' ∉ pair
  isKey : '=' ∉ key ∧ '&' ∉ key
  isSensitive : Text.toLowercase (String.ofList key) ∈
    ["password", "pass", "token", "sslpassword", "api_key", "apikey"]

namespace SensitiveParameter

variable (p : SensitiveParameter)

def parameters (value : List Char) : List Char :=
  ['&'].intercalate (p.before ++ (p.key ++ '=' :: value) :: p.after)

def dsn (value : List Char) : String :=
  String.ofList (p.scheme ++ "://".toList ++ (p.place ++ '?' :: p.parameters value))

/-- The query begins where it should for redaction: the place has a path, or no `@` comes in the
query before a slash. Otherwise part of the query passes for credentials. -/
def BeginsInPlace (value : List Char) : Prop :=
  '/' ∈ p.place ∨ '@' ∉ (p.parameters value).takeWhile (· != '/')

theorem isSensitiveKey_key : isSensitiveKey p.key = true := by
  have h := p.isSensitive
  rw [Text.toLowercase, String.toList_ofList] at h
  exact List.contains_iff_mem.2 h

/-- Each parameter is redacted on its own, and that of the secret to the same text for all values.
-/
theorem redactQuery_parameters {value : List Char} (hvalue : '&' ∉ value) :
    redactQuery (p.parameters value) = ['&'].intercalate
      (p.before.map redactPair ++ (p.key ++ '=' :: mask) :: p.after.map redactPair) := by
  have hpair : '&' ∉ p.key ++ '=' :: value := by simp [p.isKey.2, hvalue]
  have hpairs : ∀ pair ∈ p.before ++ (p.key ++ '=' :: value) :: p.after, '&' ∉ pair := by
    intro pair hmem
    rcases List.mem_append.1 hmem with h | h
    · exact p.isPair_before pair h
    · rcases List.mem_cons.1 h with rfl | h
      · exact hpair
      · exact p.isPair_after pair h
  rw [parameters, redactQuery_intercalate (by simp) hpairs, List.map_append, List.map_cons,
    redactPair_sensitive p.isKey.1 p.isSensitiveKey_key]

/-- The value is replaced, and nothing else depends on it. The place is shown as it is without the
query. -/
theorem redact_dsn {value : List Char} (hvalue : '&' ∉ value) (h : p.BeginsInPlace value) :
    redact (p.dsn value) = String.ofList (p.scheme ++ "://".toList ++ (redactRest p.place ++
      '?' :: ['&'].intercalate
        (p.before.map redactPair ++ (p.key ++ '=' :: mask) :: p.after.map redactPair))) := by
  rw [redact, dsn, String.toList_ofList, redacted_append p.scheme_ends,
    redactRest_parameters p.place_ends h, p.redactQuery_parameters hvalue]

end SensitiveParameter

/-- The value of a sensitive parameter does not show if the query begins in its place. Without that
condition it can, as the example below tells. -/
theorem redact_hides_parameter (p : SensitiveParameter) {value value' : List Char}
    (hvalue : '&' ∉ value) (hvalue' : '&' ∉ value')
    (h : p.BeginsInPlace value) (h' : p.BeginsInPlace value') :
    redact (p.dsn value) = redact (p.dsn value') := by
  rw [p.redact_dsn hvalue h, p.redact_dsn hvalue' h']

/-- A connection string with a password among its parameters. -/
def passwordAt (place : List Char) (h : '?' ∉ place) : SensitiveParameter where
  scheme := "postgres".toList
  place := place
  before := ["sslmode=disable".toList]
  key := "Password".toList
  after := []
  scheme_ends := by decide +kernel
  place_ends := h
  isPair_before := by decide +kernel
  isPair_after := by decide +kernel
  isKey := by decide +kernel
  isSensitive := by decide +kernel

theorem redact_hides_passwordAt :
    let p := passwordAt "app@db:5432/shop".toList (by decide +kernel)
    p.dsn "s3cr@t?/=".toList = "postgres://app@db:5432/shop?sslmode=disable&Password=s3cr@t?/=" ∧
    redact (p.dsn "s3cr@t?/=".toList) = redact (p.dsn "x".toList) := by
  intro p
  refine ⟨by decide +kernel, ?_⟩
  exact redact_hides_parameter p (by decide +kernel) (by decide +kernel)
    (.inl (by decide +kernel)) (.inl (by decide +kernel))

/-- Where there is no path, an `@` in the value ends what passes for a user, and the value is
shown. -/
theorem redact_shows_parameter :
    let p := passwordAt "db".toList (by decide +kernel)
    ¬ ∀ value value' : List Char, '&' ∉ value ∧ '#' ∉ value → '&' ∉ value' ∧ '#' ∉ value' →
      redact (p.dsn value) = redact (p.dsn value') := by
  intro p h
  have hshown : redact (p.dsn "s3cr@t".toList) = "postgres://db?sslmode=disable&Password=s3cr@t" := by
    decide +kernel
  have hhidden : redact (p.dsn "x".toList) = "postgres://db?sslmode=disable&Password=***" := by
    decide +kernel
  have hsame := h "s3cr@t".toList "x".toList (by decide +kernel) (by decide +kernel)
  rw [hshown, hhidden] at hsame
  exact absurd hsame (by decide +kernel)

end SchemaSeed.Database
