import FormLetter.Proofs.Http.Backend
import FormLetter.Proofs.Http.Bearer
import FormLetter.Proofs.Token.Acceptance

/-!
# Admission

The gate opens for genuine tokens alone, and whoever is turned away because of a token learns
nothing about what is wrong with it.
-/

namespace FormLetter

open Json (Document)

namespace Http

section Refused

variable {request : Request} {secret header token : String} {now : Int64}
  {refusal : Token.Refusal}

theorem Request.bearer_of_refused (hheader : request.printableHeader? "authorization" = some header)
    (htoken : Bearer.token? header = some token)
    (hrefused : Token.validate secret now token = .error refusal) :
    request.bearer secret now = .error (.unauthorized "Invalid or expired token") := by
  simp only [bearer, hheader, Bearer.ofHeader, htoken, hrefused]

end Refused

/-- What a client is told whose token is refused, whatever the reason. -/
def Response.tokenRefused : Response :=
  .json 401 (Failure.Answer.toJson ⟨401, "UNAUTHORIZED", "Invalid or expired token"⟩)

namespace Application

variable {app : Application} {occasion : Occasion} {request : Request} {header token : String}
  {refusal : Token.Refusal} {endpoint : Endpoint}

theorem serve_of_refused (store : Store) (hendpoint : request.endpoint? = some endpoint)
    (hguarded : endpoint.IsGuarded)
    (hheader : request.printableHeader? "authorization" = some header)
    (htoken : Bearer.token? header = some token)
    (hrefused : Token.validate app.access.token.secret occasion.seconds token = .error refusal) :
    app.serve occasion store request = (app.finish occasion request .tokenRefused, store) :=
  serve_of_error store hendpoint hguarded (request.bearer_of_refused hheader htoken hrefused)

end Application

end Http

namespace Token

/-- **Only genuine tokens are accepted.** For the same header and claims one signature at most is,
a header that names another algorithm keeps every token out, an accepted token was accepted at all
earlier times, and an expired one stays expired. Whoever sends a token that is refused, for whatever
reason, gets the same 401, and the stores stay as they are. -/
theorem accepts_only_genuine (secret : String) :
    (∀ now token claims,
      validate secret now token = .ok claims → Genuine secret now token claims) ∧
    (∀ header payload left right now later, Accepts secret now (ofParts header payload left) →
      Accepts secret later (ofParts header payload right) → left = right) ∧
    (∀ header name, Header.Names name (Document.ofBytes header).root → name ≠ "HS256" →
      ∀ payload signature now,
        ¬Accepts secret now (ofParts (Base64.encode .urlSafe header) payload signature)) ∧
    (∀ earlier now token claims, earlier ≤ now → validate secret now token = .ok claims →
      validate secret earlier token = .ok claims) ∧
    (∀ now later token, now ≤ later → validate secret now token = .error .expired →
      validate secret later token = .error .expired) ∧
    ∀ (app : Http.Application) occasion store (request : Http.Request) endpoint header token
      refusal,
      app.access.token.secret = secret → request.endpoint? = some endpoint →
      endpoint.IsGuarded → request.printableHeader? "authorization" = some header →
      Http.Bearer.token? header = some token →
      validate secret occasion.seconds token = .error refusal →
        let response := app.finish occasion request .tokenRefused
        app.serve occasion store request = (response, store) ∧ response.status = 401 ∧
          response.body = Http.Response.tokenRefused.body := by
  refine ⟨fun _ _ _ => genuine_of_validate, fun _ _ _ _ _ _ => Accepts.signature_unique,
    ?_, fun _ _ _ _ => validate_earlier, fun _ _ _ => validate_later, ?_⟩
  · intro header name hname hother payload signature now haccepts
    exact hother (haccepts.algorithm_eq hname)
  · rintro app occasion store request endpoint header token refusal rfl hendpoint hguarded hheader
      htoken hrefused
    refine ⟨Http.Application.serve_of_refused store hendpoint hguarded hheader htoken hrefused,
      ?_, ?_⟩
    · rw [Http.Application.status_finish]
      rfl
    · rw [Http.Application.body_finish, if_neg (Http.Request.method_ne_head hendpoint hguarded)]

/-- A token in the last second in which it is accepted, its deletion of a template in the second
after that, and a header without a signature algorithm. -/
theorem token_of_ana_expires :
    let claims : Claims := ⟨7, "ana", 2000, 1000, "b7c1"⟩
    let token := sign "secret" claims
    let algorithm : Json.Value := .object [("typ", .string "JWT"), ("alg", .string "none")]
    let unsigned := Utf8.encode algorithm.text
    let deletion : Http.Request :=
      { method := "DELETE"
        target := "/api/v1/templates/3"
        headers := [("Authorization", "Bearer " ++ token)]
        body := [] }
    let occasion := { Http.Application.firstOccasion with now := ⟨2061, 0⟩ }
    validate "secret" 2060 token = .ok claims ∧ Genuine "secret" 2060 token claims ∧
      validate "secret" 0 token = .ok claims ∧
      (∀ header payload left right, token = ofParts header payload left →
        Accepts "secret" 0 (ofParts header payload right) → left = right) ∧
      (∀ payload signature now,
        ¬Accepts "secret" now (ofParts (Base64.encode .urlSafe unsigned) payload signature)) ∧
      validate "secret" 2061 token = .error .expired ∧
      validate "secret" 5000 token = .error .expired ∧
      ∃ response,
        Http.Application.withoutDigests.serve occasion (.memory .empty) deletion =
          (response, .memory .empty) ∧ response.status = 401 := by
  intro claims token algorithm unsigned deletion occasion
  have hvalid : validate "secret" 2060 token = .ok claims := (validate_sign ..).trans (by decide)
  have hexpired : validate "secret" 2061 token = .error .expired :=
    (validate_sign ..).trans (by decide)
  have hnone : Header.Names "none" (Document.ofBytes unsigned).root := by
    have hprints : Json.Prints algorithm _ :=
      .object (.cons "typ" (.string "JWT") (.cons "alg" (.string "none") .nil))
    rw [hprints.spells.document_encode_eq]
    exact .member (List.mem_cons_of_mem _ List.mem_cons_self) .text none
  have hheader : deletion.header? "authorization" = some ("Bearer " ++ token) := by
    have hname : ("Authorization".toLower == "authorization") = true := by decide +kernel
    simp only [deletion, Http.Request.header?, List.find?, hname, Option.map_some]
  have hprintable := Http.Request.printableHeader?_of_token hheader
    (forall_mem_sign (by decide) (by decide) _ _)
  have htoken : Http.Bearer.token? ("Bearer " ++ token) = some token :=
    Http.Bearer.token?_scheme_append (forall_mem_sign (by decide) (by decide) _ _)
  have hendpoint : deletion.endpoint? = some (.deleteTemplate "3") := by decide +kernel
  obtain ⟨hgenuine, hunique, halgorithm, hearlier, hlater, htold⟩ := accepts_only_genuine "secret"
  obtain ⟨hserved, hstatus, -⟩ := htold .withoutDigests occasion (.memory .empty) deletion _ _
    _ _ rfl hendpoint trivial hprintable htoken hexpired
  refine ⟨hvalid, hgenuine _ _ _ hvalid, hearlier 0 2060 _ _ (by decide) hvalid, ?_,
    halgorithm unsigned "none" hnone (by decide), hexpired, hlater 2061 5000 _ (by decide) hexpired,
    _, hserved, hstatus⟩
  intro header payload left right heq haccepts
  refine hunique header payload left right 2060 0 ⟨claims, ?_⟩ haccepts
  rw [← heq]
  exact hvalid

end Token

end FormLetter
