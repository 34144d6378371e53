import FormLetter.Proofs.Integer
import FormLetter.Proofs.Word
import FormLetter.Settings

/-!
# Accepted settings

Settings are accepted as a whole: each of them is then what its own variables tell, whatever the
others do.
-/

namespace FormLetter

section

variable {environment : Environment}

namespace Environment

/-- The integer for which a variable stands: the one that it spells, blanks around it aside, or the
default where it is not set. -/
inductive StandsFor (environment : Environment) (name : String) (range : IntegerRange)
    (default : Int) : Int → Prop where
  | unset (unset : environment name = none) : StandsFor environment name range default default
  | spelled {text : String} {value : Int} (given : environment name = some text)
      (spelled : range.Spells (trim text).toList value) :
      StandsFor environment name range default value

theorem integer_of_given {name text : String} {range : IntegerRange} {default : Int}
    (h : environment name = some text) :
    environment.integer name range default =
      (range.read (trim text)).mapError fun fault => .invalid name text fault.message := by
  simp only [integer, h]
  cases range.read (trim text) <;> rfl

theorem integer_of_unset {name : String} {range : IntegerRange} {default : Int}
    (h : environment name = none) : environment.integer name range default = .ok default := by
  simp only [integer, h]

theorem integer_eq_ok_iff {name : String} {range : IntegerRange} {default value : Int}
    (hgreatest : 0 ≤ range.greatest) :
    environment.integer name range default = .ok value ↔
      environment.StandsFor name range default value := by
  constructor
  · intro h
    cases hgiven : environment name with
    | none =>
        rw [integer_of_unset hgiven] at h
        cases h
        exact .unset hgiven
    | some text =>
        rw [integer_of_given hgiven, except_mapError_eq_ok_iff] at h
        exact .spelled hgiven (((IntegerRange.readChars_eq_iff hgreatest _).1 value).mp h)
  · intro h
    cases h with
    | unset hunset => exact integer_of_unset hunset
    | spelled hgiven hspelled =>
        rw [integer_of_given hgiven, except_mapError_eq_ok_iff]
        exact hspelled.readChars_eq

theorem StandsFor.bounds {name : String} {range : IntegerRange} {default value : Int}
    (hleast : range.least ≤ 0) (hgreatest : 0 ≤ range.greatest)
    (hdefault : range.least ≤ default ∧ default ≤ range.greatest)
    (h : environment.StandsFor name range default value) :
    range.least ≤ value ∧ value ≤ range.greatest := by
  cases h with
  | unset => exact hdefault
  | spelled _ hspelled => exact hspelled.bounds hleast hgreatest

theorem natural_eq_ok_iff {name : String} {bits default value : Nat} :
    environment.natural name bits default = .ok value ↔
      environment.StandsFor name (.unsigned bits) default value := by
  have hgreatest := IntegerRange.zero_le_greatest_unsigned bits
  rw [natural, except_map_eq_ok_iff]
  simp only [integer_eq_ok_iff hgreatest]
  constructor
  · rintro ⟨given, hgiven, rfl⟩
    have hleast : 0 ≤ given := by
      cases hgiven with
      | unset => exact Int.natCast_nonneg default
      | spelled _ hspelled => exact (hspelled.bounds (Int.le_refl 0) hgreatest).1
    rwa [Int.toNat_of_nonneg hleast]
  · intro h
    exact ⟨value, h, Int.toNat_natCast value⟩

theorem fitsWord_of_integer {name : String} {default value : Int} (hdefault : FitsWord default)
    (h : environment.integer name (.signed 64) default = .ok value) : FitsWord value := by
  have hstands := (integer_eq_ok_iff (by decide)).mp h
  obtain ⟨hleast, hgreatest⟩ := hstands.bounds (by decide) (by decide)
    ⟨hdefault.1, Int.le_sub_one_of_lt hdefault.2⟩
  exact ⟨hleast, Int.lt_of_le_sub_one hgreatest⟩

end Environment

/-- Tokens are set up by a secret, which cannot be empty, and by the minutes for which they stay
valid. -/
theorem Environment.token_eq_ok_iff {token : TokenSettings} :
    environment.token = .ok token ↔
      environment "JWT_SECRET" = some token.secret ∧ token.secret ≠ "" ∧
        environment.integer "JWT_EXPIRY_MINS" (.signed 64) 60 = .ok token.expiryMinutes.toInt := by
  constructor
  · intro h
    rw [Environment.token] at h
    simp only [beq_iff_eq] at h
    split at h
    next => cases h
    next hsecret =>
      obtain ⟨minutes, hminutes, h⟩ := except_bind_eq_ok_iff.mp h
      cases h
      obtain ⟨hleast, hgreatest⟩ := fitsWord_of_integer (by decide) hminutes
      rw [Int64.toInt_ofInt_of_le hleast hgreatest]
      cases hgiven : environment "JWT_SECRET" with
      | none => exact absurd (congrArg (Option.getD · "") hgiven) hsecret
      | some secret =>
          rw [hgiven] at hsecret
          exact ⟨rfl, hsecret, hminutes⟩
  · rintro ⟨hgiven, hsecret, hminutes⟩
    rw [Environment.token, hgiven, hminutes, Option.getD_some, if_neg (by simpa using hsecret)]
    simp only [bind, Except.bind, Int64.ofInt_toInt]
    rfl

theorem Settings.ofEnvironment_eq_ok_iff {settings : Settings} :
    ofEnvironment environment = .ok settings ↔
      environment.natural "PORT" 16 3000 = .ok settings.portNumber ∧
      environment.natural "REQUEST_TIMEOUT_SECS" 64 30 = .ok settings.requestTimeout ∧
      environment.natural "MIN_PASSWORD_LENGTH" 64 8 = .ok settings.minPasswordLength ∧
      environment.backend = .ok settings.backend ∧ environment.token = .ok settings.token ∧
      settings.host = (environment "HOST").getD "0.0.0.0" ∧
      settings.origins = environment.origins := by
  obtain ⟨host, portNumber, origins, requestTimeout, backend, token, minPasswordLength⟩ := settings
  simp only [ofEnvironment, except_bind_eq_ok_iff]
  constructor
  · rintro ⟨_, hport, _, htimeout, _, hlength, _, hbackend, _, htoken, h⟩
    cases h
    exact ⟨hport, htimeout, hlength, hbackend, htoken, rfl, rfl⟩
  · rintro ⟨hport, htimeout, hlength, hbackend, htoken, rfl, rfl⟩
    exact ⟨_, hport, _, htimeout, _, hlength, _, hbackend, _, htoken, rfl⟩

end

/-- Stores in memory, and all else but the tokens as it is where no variable says otherwise. -/
def Settings.inMemory (token : TokenSettings) : Settings where
  host := "0.0.0.0"
  portNumber := 3000
  origins := ["http://localhost:5173"]
  requestTimeout := 30
  backend := .memory
  token := token
  minPasswordLength := 8

end FormLetter
