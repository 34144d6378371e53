import FormLetter.Proofs.Http.Bearer
import FormLetter.Proofs.Service.Run
import FormLetter.Proofs.Settings

/-!
# How long logins last

The minutes for which a token stays valid may be any number of 64 bits. They are reckoned in seconds
and added to the time of the login without a look at whether there is room. Where there is, what a
login tells about its token is exact, and where there is not, there is no token.
-/

namespace FormLetter.Accounts

section Grant

variable {settings : TokenSettings} {now : Int64} {jti : String} {account : Account}

theorem exists_grant?_iff :
    (∃ grant, grant? settings now jti account = some grant) ↔
      FitsWord (60 * settings.expiryMinutes.toInt) ∧
        FitsWord (now.toInt + 60 * settings.expiryMinutes.toInt) := by
  constructor
  · rintro ⟨grant, hgrant⟩
    obtain ⟨token, htoken, -⟩ := Option.bind_eq_some_iff.mp hgrant
    exact Token.exists_issue?_iff.mp ⟨token, htoken⟩
  · intro hroom
    obtain ⟨token, htoken⟩ := Token.exists_issue?_iff.mpr hroom
    obtain ⟨lifetime, hlifetime⟩ := Token.exists_lifetime?_iff.mpr hroom.1
    exact ⟨⟨token, lifetime⟩, Option.bind_eq_some_iff.mpr ⟨token, htoken,
      Option.bind_eq_some_iff.mpr ⟨lifetime, hlifetime, rfl⟩⟩⟩

/-- What a grant tells can be read in its token. -/
theorem conveys_of_grant? {grant : Grant} (h : grant? settings now jti account = some grant) :
    grant.lifetime.toInt = 60 * settings.expiryMinutes.toInt ∧
      ∃ claims, Token.Conveys settings.secret grant.token claims ∧
        claims.sub = Int64.ofInt account.id ∧ claims.username = account.username ∧
        claims.iat = now ∧ claims.exp.toInt - claims.iat.toInt = grant.lifetime.toInt := by
  obtain ⟨token, htoken, h⟩ := Option.bind_eq_some_iff.mp h
  obtain ⟨lifetime, hlifetime, h⟩ := Option.bind_eq_some_iff.mp h
  cases h
  obtain ⟨-, expiry, hexpiry, rfl⟩ := Token.issue?_eq_some_iff.mp htoken
  rw [Token.lifetime?_eq_some_iff] at hlifetime
  refine ⟨hlifetime, _, Token.conveys_sign _ _, rfl, rfl, rfl, ?_⟩
  simp only [hexpiry, hlifetime]
  omega

end Grant

/-- **The lifetime of a token is exact as long as it has room.** For all settings that are accepted,
the lifetime is that of the minutes in their variable, and it can be told exactly if it fits into 64
bits. A login whose password opens an account gets a token exactly if the time of expiry fits as
well, and then what it is told of the token is how long the token is valid. -/
theorem lifetime_exact_iff {environment : Environment} {settings : Settings}
    (haccepted : Settings.ofEnvironment environment = .ok settings) :
    ∃ minutes, environment.integer "JWT_EXPIRY_MINS" (.signed 64) 60 = .ok minutes ∧
      (∀ lifetime, settings.token.lifetime? = some lifetime ↔ lifetime.toInt = 60 * minutes) ∧
      ((∃ lifetime, settings.token.lifetime? = some lifetime) ↔ FitsWord (60 * minutes)) ∧
      ∀ derive now memory seconds jti request result,
        (Service.exec now (login derive settings.token seconds jti request) memory).1 =
            .ok result →
          ((∃ grant, result = some grant) ↔
            FitsWord (60 * minutes) ∧ FitsWord (seconds.toInt + 60 * minutes)) ∧
          ∀ grant, result = some grant → grant.lifetime.toInt = 60 * minutes ∧
            ∃ claims, Token.Conveys settings.token.secret grant.token claims ∧
              claims.iat = seconds ∧
              claims.exp.toInt - claims.iat.toInt = grant.lifetime.toInt := by
  obtain ⟨-, -, -, -, htoken, -⟩ := Settings.ofEnvironment_eq_ok_iff.mp haccepted
  obtain ⟨-, -, hminutes⟩ := Environment.token_eq_ok_iff.mp htoken
  refine ⟨_, hminutes, fun lifetime => Token.lifetime?_eq_some_iff, Token.exists_lifetime?_iff, ?_⟩
  intro derive now memory seconds jti request result hresult
  rw [exec_login, except_map_eq_ok_iff] at hresult
  obtain ⟨account, -, rfl⟩ := hresult
  refine ⟨exists_grant?_iff, fun grant hgrant => ?_⟩
  obtain ⟨hlifetime, claims, hconveys, -, -, hissued, hexpiry⟩ := conveys_of_grant? hgrant
  exact ⟨hlifetime, claims, hconveys, hissued, hexpiry⟩

/-- A lifetime of a quarter of an hour. -/
theorem quarter_of_an_hour_is_exact :
    let environment : Environment := fun name =>
      [("JWT_SECRET", "hush"), ("STORE_BACKEND", "Memory"),
        ("JWT_EXPIRY_MINS", " 15\n")].lookup name
    ∃ settings, Settings.ofEnvironment environment = .ok settings ∧
      settings.token.lifetime? = some 900 ∧
      ∀ derive now memory jti request result,
        (Service.exec now (login derive settings.token 1000 jti request) memory).1 = .ok result →
          ∃ grant claims, result = some grant ∧ grant.lifetime.toInt = 900 ∧
            Token.Conveys "hush" grant.token claims ∧
            claims.exp.toInt - claims.iat.toInt = 900 := by
  intro environment
  have haccepted : Settings.ofEnvironment environment = .ok (.inMemory ⟨"hush", 15⟩) := by
    decide +kernel
  obtain ⟨minutes, hminutes, hlifetime, -, hlogin⟩ := lifetime_exact_iff haccepted
  have hread : environment.integer "JWT_EXPIRY_MINS" (.signed 64) 60 = .ok 15 := by decide +kernel
  obtain rfl : 15 = minutes := Except.ok.inj (hread.symm.trans hminutes)
  refine ⟨_, haccepted, (hlifetime 900).mpr rfl, ?_⟩
  intro derive now memory jti request result hresult
  obtain ⟨hgranted, htold⟩ := hlogin derive now memory 1000 jti request result hresult
  obtain ⟨grant, rfl⟩ := hgranted.mpr (by decide)
  obtain ⟨hsame, claims, hconveys, -, hapart⟩ := htold grant rfl
  exact ⟨grant, claims, rfl, hsame, hconveys, hapart.trans hsame⟩

/-- The first number of minutes with too many seconds, and the last one with few enough, with which
there is no token all the same. -/
theorem minutes_run_out_of_room :
    let environment (minutes : String) : Environment := fun name =>
      [("JWT_SECRET", "hush"), ("STORE_BACKEND", "memory"),
        ("JWT_EXPIRY_MINS", minutes)].lookup name
    let derive : Password.Derivation := fun _ length _ _ => List.replicate length 0
    let ana : Credentials := ⟨"ana", "password"⟩
    let memory := (Service.exec ⟨0, 0⟩ (register derive 8 [1, 2, 3, 4, 5, 6, 7, 8] ana) .empty).2
    (∃ settings, Settings.ofEnvironment (environment "153722867280912931") = .ok settings ∧
      settings.token.expiryMinutes.toInt = 153722867280912931 ∧
      settings.token.lifetime? = none) ∧
    ∃ settings, Settings.ofEnvironment (environment "153722867280912930") = .ok settings ∧
      settings.token.lifetime? = some 9223372036854775800 ∧
      (Service.exec ⟨1000, 0⟩ (login derive settings.token 1000 "id" ana) memory).1 =
        .ok none := by
  intro environment derive ana memory
  have hfirst : Settings.ofEnvironment (environment "153722867280912931") =
      .ok (.inMemory ⟨"hush", 153722867280912931⟩) := by decide +kernel
  have hlast : Settings.ofEnvironment (environment "153722867280912930") =
      .ok (.inMemory ⟨"hush", 153722867280912930⟩) := by decide +kernel
  have hopen : (open? derive ana.password (memory.accounts.find? ana.username)).map
      Account.username = .ok "ana" := by decide +kernel
  obtain ⟨account, haccount, -⟩ := except_map_eq_ok_iff.mp hopen
  refine ⟨⟨_, hfirst, by decide, by decide⟩, _, hlast, by decide, ?_⟩
  rw [exec_login, haccount]
  rfl

end FormLetter.Accounts
