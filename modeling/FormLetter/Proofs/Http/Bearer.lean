import FormLetter.Http.Gate
import FormLetter.Proofs.Token.Acceptance

/-!
# Bearers

Whoever sends an issued token along is known by it as the account that it was issued to.
-/

namespace FormLetter

namespace Http.Bearer

theorem token?_scheme_append {token : String} (h : ∀ c ∈ token.toList, isBlank c = false) :
    token? ("Bearer " ++ token) = some token := by
  have htext : ("Bearer " ++ token).toList = scheme ++ token.toList := String.toList_append
  rw [token?, htext, if_pos (List.isPrefixOf_iff_prefix.mpr (List.prefix_append ..)),
    List.drop_left, trimChars_eq_self h, String.ofList_toList]

theorem all_isPrintable_scheme : scheme.all Request.isPrintable = true := by
  decide

end Http.Bearer

theorem Http.Request.printableHeader?_of_token {request : Request} {token : String}
    (hheader : request.header? "authorization" = some ("Bearer " ++ token))
    (hprintable : ∀ c ∈ token.toList, isPrintable c = true) :
    request.printableHeader? "authorization" = some ("Bearer " ++ token) := by
  have hall : ("Bearer " ++ token).toList.all isPrintable = true := by
    rw [String.toList_append, List.all_append, Bool.and_eq_true]
    exact ⟨Bearer.all_isPrintable_scheme, List.all_eq_true.mpr hprintable⟩
  rw [printableHeader?, hheader, Option.filter_some, hall, if_pos rfl]

theorem Http.Request.bearer_of_token {request : Request} {secret token : String} {now : Int64}
    {claims : Token.Claims} (hheader : request.header? "authorization" = some ("Bearer " ++ token))
    (hblank : ∀ c ∈ token.toList, isBlank c = false)
    (hprintable : ∀ c ∈ token.toList, isPrintable c = true)
    (hvalid : Token.validate secret now token = .ok claims) :
    request.bearer secret now = .ok ⟨claims.sub, claims.username⟩ := by
  simp only [bearer, printableHeader?_of_token hheader hprintable, Bearer.ofHeader,
    Bearer.token?_scheme_append hblank, hvalid]

/-- The token tells the claims to whoever knows the secret, and whoever sends it along is known by
them until a minute after it expires. -/
structure Token.Conveys (secret token : String) (claims : Claims) : Prop where
  opens : ∃ registered, Opens secret token claims registered
  validate_eq : 0 ≤ claims.exp.toInt → ∀ time : Int64, time.toInt ≤ claims.exp.toInt + 60 →
    validate secret time token = .ok claims
  bearer_eq : 0 ≤ claims.exp.toInt → ∀ time : Int64, time.toInt ≤ claims.exp.toInt + 60 →
    ∀ request : Http.Request, request.header? "authorization" = some ("Bearer " ++ token) →
      request.bearer secret time = .ok { id := claims.sub, username := claims.username }

theorem Token.conveys_sign (secret : String) (claims : Claims) :
    Conveys secret (sign secret claims) claims := by
  have hvalid : 0 ≤ claims.exp.toInt → ∀ time : Int64, time.toInt ≤ claims.exp.toInt + 60 →
      validate secret time (sign secret claims) = .ok claims := by
    intro hreadable time hcurrent
    have hunexpired : ¬claims.exp.toInt < time.toInt - leeway := by
      rw [leeway]
      omega
    rw [validate_sign, if_neg (Int.not_lt.mpr hreadable), if_neg hunexpired]
  refine ⟨⟨_, opens_sign secret claims⟩, hvalid, fun hreadable time hcurrent request hheader => ?_⟩
  exact Http.Request.bearer_of_token hheader (forall_mem_sign (by decide) (by decide) _ _)
    (forall_mem_sign (by decide) (by decide) _ _) (hvalid hreadable time hcurrent)

/-- **An issued token authenticates as the account that it was issued to**, until a minute after
its expiry. It is issued as long as its lifetime has room, which is always so from 1970 on. -/
theorem Token.issued_token_authenticates {settings : TokenSettings} {now time userId : Int64}
    {jti username : String} (hreadable : 0 ≤ now.toInt + 60 * settings.expiryMinutes.toInt)
    (hfits : now.toInt + 60 * settings.expiryMinutes.toInt ≤ Int64.maxValue.toInt)
    (htime : time.toInt ≤ now.toInt + 60 * settings.expiryMinutes.toInt + 60) :
    ((∃ token, issue? settings now jti userId username = some token) ↔
        60 * settings.expiryMinutes.toInt ≤ Int64.maxValue.toInt) ∧
      (0 ≤ now.toInt → 60 * settings.expiryMinutes.toInt ≤ Int64.maxValue.toInt) ∧
      ∀ token, issue? settings now jti userId username = some token →
        (∃ expiry : Int64, expiry.toInt = now.toInt + 60 * settings.expiryMinutes.toInt ∧
          validate settings.secret time token =
            .ok { sub := userId, username := username, exp := expiry, iat := now, jti := jti }) ∧
        ∀ request : Http.Request,
          request.header? "authorization" = some ("Bearer " ++ token) →
            request.bearer settings.secret time = .ok { id := userId, username := username } := by
  have hmax : Int64.maxValue.toInt = 2 ^ 63 - 1 := Int64.toInt_maxValue
  have hnow := now.toInt_lt
  refine ⟨?_, fun hepoch => by omega, fun token htoken => ?_⟩
  · rw [exists_issue?_iff]
    constructor
    · rintro ⟨hlifetime, -⟩
      have hbound := hlifetime.2
      omega
    · intro hlifetime
      exact ⟨⟨by omega, by omega⟩, by omega, by omega⟩
  · obtain ⟨-, expiry, hexpiry, rfl⟩ := issue?_eq_some_iff.mp htoken
    have hconveys := conveys_sign settings.secret ⟨userId, username, expiry, now, jti⟩
    rw [← hexpiry] at hreadable htime
    exact ⟨⟨expiry, hexpiry, hconveys.validate_eq hreadable time htime⟩,
      hconveys.bearer_eq hreadable time htime⟩

/-- A token of fifteen minutes, in the last second in which it is accepted. -/
theorem Token.token_of_ana_authenticates :
    ∃ token, issue? ⟨"hush", 15⟩ 1000 "b7c1" (-42) "ana\n\"ć\"" = some token ∧
      Http.Request.bearer
          { method := "DELETE"
            target := "/api/v1/templates/3"
            headers := [("Host", "localhost"), ("Authorization", "Bearer " ++ token)]
            body := [] } "hush" 1960 =
        .ok { id := -42, username := "ana\n\"ć\"" } := by
  obtain ⟨hissued, -, hauthenticates⟩ :=
    @issued_token_authenticates ⟨"hush", 15⟩ 1000 1960 (-42) "b7c1" "ana\n\"ć\""
      (by decide) (by decide) (by decide)
  obtain ⟨token, htoken⟩ := hissued.mpr (by decide)
  have hhost : ("Host".toLower == "authorization") = false := by decide +kernel
  have hname : ("Authorization".toLower == "authorization") = true := by decide +kernel
  refine ⟨token, htoken, (hauthenticates token htoken).2 _ ?_⟩
  simp only [Http.Request.header?, List.find?, hhost, hname, Option.map_some]

end FormLetter
