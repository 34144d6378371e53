import FormLetter.Proofs.Settings.Objection
import FormLetter.Proofs.Text

/-!
# What variables make of settings

Each setting is what its own variables say, and a variable that is not set leaves it as it is by
default. What is accepted and what is told otherwise depends on nothing else.
-/

namespace FormLetter

namespace Environment

/-- The backend that is asked for, with what is said of its database. -/
inductive Chooses (environment : Environment) : Backend → Prop where
  | memory (asked : environment.AsksFor "memory") : Chooses environment .memory
  | postgres {url : String} {connections : Nat} (asked : environment.AsksFor "postgres")
      (given : environment "DATABASE_URL" = some url)
      (stands : environment.StandsFor "DB_MAX_CONNECTIONS" (.unsigned 32) 20 connections) :
      Chooses environment (.postgres url connections)

/-- The origins are the parts between the commas, in their order and without the blanks around them.
Parts of nothing but blanks are left out. -/
def ListsOrigins (environment : Environment) (origins : List String) : Prop :=
  ∃ parts : List (List Char), parts ≠ [] ∧ (∀ part ∈ parts, ',' ∉ part) ∧
    [','].intercalate parts = ((environment "CORS_ORIGINS").getD "http://localhost:5173").toList ∧
    origins = ((parts.map trimChars).filter (· ≠ [])).map String.ofList

/-- Each of the settings is what its own variables say. -/
structure Describes (environment : Environment) (settings : Settings) : Prop where
  host : settings.host = (environment "HOST").getD "0.0.0.0"
  portNumber : environment.StandsFor "PORT" (.unsigned 16) 3000 settings.portNumber
  origins : environment.ListsOrigins settings.origins
  requestTimeout :
    environment.StandsFor "REQUEST_TIMEOUT_SECS" (.unsigned 64) 30 settings.requestTimeout
  backend : environment.Chooses settings.backend
  secret : environment "JWT_SECRET" = some settings.token.secret
  secret_ne_empty : settings.token.secret ≠ ""
  expiryMinutes :
    environment.StandsFor "JWT_EXPIRY_MINS" (.signed 64) 60 settings.token.expiryMinutes.toInt
  minPasswordLength :
    environment.StandsFor "MIN_PASSWORD_LENGTH" (.unsigned 64) 8 settings.minPasswordLength

section

variable {environment : Environment}

theorem backend_eq_ok_iff {backend : Backend} :
    environment.backend = .ok backend ↔ environment.Chooses backend := by
  constructor
  · intro h
    by_cases hpostgres : environment.AsksFor "postgres"
    · rw [backend_of_postgres hpostgres] at h
      cases hgiven : environment "DATABASE_URL" with
      | none => simp [hgiven] at h
      | some url =>
          simp only [hgiven, except_map_eq_ok_iff] at h
          obtain ⟨connections, hconnections, rfl⟩ := h
          exact .postgres hpostgres hgiven (natural_eq_ok_iff.mp hconnections)
    · by_cases hmemory : environment.AsksFor "memory"
      · rw [backend_of_memory hmemory] at h
        cases h
        exact .memory hmemory
      · obtain ⟨_, -, hrefused⟩ := backend_of_unknown hpostgres hmemory
        exact nomatch hrefused.symm.trans h
  · intro h
    cases h with
    | memory hmemory => exact backend_of_memory hmemory
    | postgres hpostgres hgiven hstands =>
        rw [backend_of_postgres hpostgres]
        simp only [hgiven, except_map_eq_ok_iff]
        exact ⟨_, natural_eq_ok_iff.mpr hstands, rfl⟩

theorem listsOrigins_iff {origins : List String} :
    environment.ListsOrigins origins ↔ origins = environment.origins := by
  have hkept : ∀ parts : List (List Char),
      ((parts.map trimChars).filter (· ≠ [])).map String.ofList =
        (parts.map fun part => String.ofList (trimChars part)).filter (· != "") := by
    intro parts
    have hempty : ∀ text : List Char, (String.ofList text != "") = decide (text ≠ []) := by
      intro text
      rw [Bool.eq_iff_iff]
      simp [← String.toList_inj]
    simp only [List.filter_map, List.map_map, Function.comp_def, hempty]
  constructor
  · rintro ⟨parts, hne, hcomma, hjoined, rfl⟩
    rw [hkept, origins, splitOn_eq_iff.mpr ⟨hne, hcomma, hjoined⟩]
  · rintro rfl
    obtain ⟨hne, hcomma, hjoined⟩ := splitOn_eq_iff.mp rfl
    exact ⟨_, hne, hcomma, hjoined, (hkept _).symm⟩

theorem describes_iff {settings : Settings} :
    environment.Describes settings ↔ Settings.ofEnvironment environment = .ok settings := by
  have hexpiry : ∀ minutes, environment.integer "JWT_EXPIRY_MINS" (.signed 64) 60 = .ok minutes ↔
      environment.StandsFor "JWT_EXPIRY_MINS" (.signed 64) 60 minutes :=
    fun _ => integer_eq_ok_iff (by decide)
  simp only [Settings.ofEnvironment_eq_ok_iff, natural_eq_ok_iff, backend_eq_ok_iff,
    token_eq_ok_iff, hexpiry, ← listsOrigins_iff]
  constructor
  · intro h
    exact ⟨h.portNumber, h.requestTimeout, h.minPasswordLength, h.backend,
      ⟨h.secret, h.secret_ne_empty, h.expiryMinutes⟩, h.host, h.origins⟩
  · rintro ⟨hport, htimeout, hlength, hbackend, ⟨hsecret, hne, hminutes⟩, hhost, horigins⟩
    exact ⟨hhost, hport, horigins, htimeout, hbackend, hsecret, hne, hminutes, hlength⟩

/-- The variables of the database do not matter to settings without one. -/
theorem ofEnvironment_eq_of_asksFor_memory {other : Environment}
    (hmemory : environment.AsksFor "memory")
    (hother : ∀ name, name ≠ "DATABASE_URL" → name ≠ "DB_MAX_CONNECTIONS" →
      other name = environment name) :
    Settings.ofEnvironment other = Settings.ofEnvironment environment := by
  have hinteger : ∀ name range default, name ≠ "DATABASE_URL" → name ≠ "DB_MAX_CONNECTIONS" →
      other.integer name range default = environment.integer name range default := by
    intro name range default hurl hconnections
    rw [integer, integer, hother name hurl hconnections]
  have hbackend : other.backend = environment.backend := by
    have hsame : other.AsksFor "memory" := by
      rwa [AsksFor, hother _ (by decide) (by decide)]
    rw [backend_of_memory hsame, backend_of_memory hmemory]
  have htoken : other.token = environment.token := by
    rw [token, token, hother _ (by decide) (by decide), hinteger _ _ _ (by decide) (by decide)]
  have horigins : other.origins = environment.origins := by
    rw [origins, origins, hother _ (by decide) (by decide)]
  simp only [Settings.ofEnvironment, natural, hbackend, htoken, horigins]
  rw [hinteger _ _ _ (by decide) (by decide), hinteger _ _ _ (by decide) (by decide),
    hinteger _ _ _ (by decide) (by decide), hother _ (by decide) (by decide)]

end

end Environment

/-- **The first variable that is not acceptable decides.** There are settings when each variable
that is consulted is acceptable, and otherwise the first that is not is told of, in the order in
which they are consulted. The settings are those that the variables describe. Where the backend is
memory, the variables of the database make no difference. -/
theorem Settings.decided_by_first_objection (environment : Environment) :
    ((∃ settings, ofEnvironment environment = .ok settings) ↔
      ∀ entry ∈ Entry.inOrder, environment.Consults entry → environment.Acceptable entry) ∧
    (∀ error, ofEnvironment environment = .error error ↔
      environment.FirstObjection Entry.inOrder error) ∧
    (∀ settings, ofEnvironment environment = .ok settings ↔ environment.Describes settings) ∧
    (environment.AsksFor "memory" → ∀ other : Environment,
      (∀ name, name ≠ "DATABASE_URL" → name ≠ "DB_MAX_CONNECTIONS" →
        other name = environment name) →
      ofEnvironment other = ofEnvironment environment) := by
  have hreads := environment.reads_settings
  refine ⟨hreads.succeeds_iff, hreads.fails_iff, fun settings => ?_, fun hmemory other hother => ?_⟩
  · exact Environment.describes_iff.symm
  · exact Environment.ofEnvironment_eq_of_asksFor_memory hmemory hother

/-- Blanks, a plus and zeros in front make no difference to a number, and a database that is not
used may be said anything of. -/
example :
    let environment : Environment := fun name =>
      [("PORT", " +08080\n"), ("STORE_BACKEND", "MeMoRy"), ("DB_MAX_CONNECTIONS", "many"),
        ("JWT_SECRET", "hush"), ("CORS_ORIGINS", "http://a, ,http://b,")].lookup name
    Settings.ofEnvironment environment =
      .ok { Settings.inMemory ⟨"hush", 60⟩ with
        portNumber := 8080, origins := ["http://a", "http://b"] } := by
  decide +kernel

/-- The backend is told of before the secret that is not set, with its letters in small case. -/
example :
    let environment : Environment := fun name => [("STORE_BACKEND", "Redis")].lookup name
    Settings.ofEnvironment environment =
      .error (.invalid "STORE_BACKEND" "redis" "expected `postgres` or `memory`") := by
  decide +kernel

end FormLetter
