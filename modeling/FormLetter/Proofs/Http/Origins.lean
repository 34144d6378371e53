import FormLetter.Http.Application
import FormLetter.Proofs.Settings
import Mathlib.Control.Monad.Basic

/-!
# Origins of browsers

An origin from the settings is allowed, or passed over because it cannot stand in a header. The
wildcard can, and is not passed over: it keeps the application from being set up.
-/

namespace FormLetter

theorem Environment.mem_origins_iff {environment : Environment} {origin : String} :
    origin ∈ environment.origins ↔
      origin ≠ "" ∧ ∃ part ∈
        ((environment "CORS_ORIGINS").getD "http://localhost:5173").toList.splitOn ',',
          String.ofList (trimChars part) = origin := by
  simp [origins, and_comm]

namespace Http

namespace Origins

variable {given : List String}

theorem isHeaderValue_wildcard : isHeaderValue "*" = true := by
  decide

theorem ofList?_eq_none_iff : ofList? given = none ↔ "*" ∈ given := by
  have hnamed : "*" ∈ given.filter isHeaderValue ↔ "*" ∈ given := by
    rw [List.mem_filter, and_iff_left isHeaderValue_wildcard]
  rw [← hnamed, ofList?]
  by_cases hwildcard : "*" ∈ given.filter isHeaderValue <;> simp [hwildcard]

theorem names_of_ofList? {origins : Origins} (h : ofList? given = some origins) :
    origins.names = given.filter isHeaderValue := by
  rw [ofList?] at h
  by_cases hwildcard : "*" ∈ given.filter isHeaderValue
  · rw [dif_pos hwildcard] at h
    cases h
  · rw [dif_neg hwildcard] at h
    cases h
    rfl

/-- The header with which a browser is let in. -/
def allowHeader (origin : String) : String × String :=
  ("access-control-allow-origin", origin)

theorem allowHeader_mem_headers_iff {origins : Origins} {request : Request} {origin : String} :
    allowHeader origin ∈ origins.headers request ↔
      request.header? "origin" = some origin ∧ origin ∈ origins.names := by
  unfold allowHeader headers
  cases hsent : request.header? "origin" with
  | none => simp
  | some sent =>
      rw [Option.some.injEq]
      constructor
      · intro hmem
        by_cases hnamed : sent ∈ origins.names
        · simp [hnamed] at hmem
          exact ⟨hmem.symm, hmem ▸ hnamed⟩
        · simp [hnamed] at hmem
      · rintro ⟨rfl, hnamed⟩
        simp [hnamed]

end Origins

/-- **Only the wildcard keeps the application from being set up.** For all settings that are
accepted, there is no application if and only if a part between the commas is the wildcard, blanks
aside. Else the origins are those from the settings that can stand in a header: a browser that comes
from one of them is let in, and all others are passed over. -/
theorem Application.exists_unless_wildcard {environment : Environment} {settings : Settings}
    (haccepted : Settings.ofEnvironment environment = .ok settings)
    (derive : Password.Derivation) :
    let parts :=
      ((environment "CORS_ORIGINS").getD "http://localhost:5173").toList.splitOn ','
    (∀ origin, origin ∈ settings.origins ↔
      origin ≠ "" ∧ ∃ part ∈ parts, String.ofList (trimChars part) = origin) ∧
    (ofSettings? derive settings = none ↔
      ∃ part ∈ parts, String.ofList (trimChars part) = "*") ∧
    ∀ app, ofSettings? derive settings = some app →
      app.origins.names = settings.origins.filter Origins.isHeaderValue ∧
      ∀ request origin, Origins.allowHeader origin ∈ app.origins.headers request ↔
        request.header? "origin" = some origin ∧ origin ∈ settings.origins ∧
          Origins.isHeaderValue origin = true := by
  intro parts
  obtain ⟨-, -, -, -, -, -, horigins⟩ := Settings.ofEnvironment_eq_ok_iff.mp haccepted
  have hmem : ∀ origin, origin ∈ settings.origins ↔
      origin ≠ "" ∧ ∃ part ∈ parts, String.ofList (trimChars part) = origin := by
    intro origin
    rw [horigins]
    exact Environment.mem_origins_iff
  refine ⟨hmem, ?_, fun app happ => ?_⟩
  · rw [ofSettings?, Option.map_eq_none_iff, Origins.ofList?_eq_none_iff, hmem]
    exact and_iff_right (by decide)
  · obtain ⟨origins, hlisted, rfl⟩ := Option.map_eq_some_iff.mp happ
    have hnames := Origins.names_of_ofList? hlisted
    refine ⟨hnames, fun request origin => ?_⟩
    rw [Origins.allowHeader_mem_headers_iff, hnames, List.mem_filter]

/-- Two origins, one of which has a line break in it, and a part of blanks. -/
theorem Application.broken_origin_is_passed_over :
    let environment : Environment := fun name =>
      [("JWT_SECRET", "hush"), ("STORE_BACKEND", "memory"),
        ("CORS_ORIGINS", " http://localhost:3000, ,http://local\nhost")].lookup name
    let derive : Password.Derivation := fun _ _ _ _ => []
    ∃ settings app, Settings.ofEnvironment environment = .ok settings ∧
      settings.origins = ["http://localhost:3000", "http://local\nhost"] ∧
      ofSettings? derive settings = some app ∧ app.origins.names = ["http://localhost:3000"] := by
  intro environment derive
  have haccepted : Settings.ofEnvironment environment =
      .ok { Settings.inMemory ⟨"hush", 60⟩ with
        origins := ["http://localhost:3000", "http://local\nhost"] } := by
    decide +kernel
  obtain ⟨-, hnone, hsome⟩ := exists_unless_wildcard haccepted derive
  cases happ : ofSettings? derive { Settings.inMemory ⟨"hush", 60⟩ with
      origins := ["http://localhost:3000", "http://local\nhost"] } with
  | none => exact absurd (hnone.mp happ) (by decide +kernel)
  | some app =>
      obtain ⟨hnames, -⟩ := hsome app happ
      exact ⟨_, app, haccepted, rfl, happ, hnames.trans (by decide)⟩

/-- The wildcard alone. -/
theorem Application.none_for_wildcard :
    let environment : Environment := fun name =>
      [("JWT_SECRET", "hush"), ("STORE_BACKEND", "memory"), ("CORS_ORIGINS", "*")].lookup name
    ∃ settings, Settings.ofEnvironment environment = .ok settings ∧ settings.origins = ["*"] ∧
      ∀ derive, ofSettings? derive settings = none := by
  intro environment
  have haccepted : Settings.ofEnvironment environment =
      .ok { Settings.inMemory ⟨"hush", 60⟩ with origins := ["*"] } := by
    decide +kernel
  refine ⟨_, haccepted, rfl, fun derive => ?_⟩
  rw [ofSettings?, Option.map_eq_none_iff, Origins.ofList?_eq_none_iff]
  exact List.mem_cons_self

end Http

end FormLetter
