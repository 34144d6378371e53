import FormLetter.Proofs.Http.Atomicity
import Mathlib.Control.Monad.Basic

/-!
# What the authorization header decides

Only the endpoints that change templates ask for a token, and they ask before they look at the path
or at the body. So the header decides whether a request passes the gate and nothing else: it has no
say in what is done for a request that needs no token, nor in what is done behind the gate, and who
is turned away learns only what is wrong with the header.
-/

namespace FormLetter.Http

open Program

/-- The same in all but the headers of one name. -/
structure Request.AgreesBesides (name : String) (left right : Request) : Prop where
  method : left.method = right.method
  target : left.target = right.target
  headers : (left.headers.filter fun header => header.1.toLower != name) =
    right.headers.filter fun header => header.1.toLower != name
  body : left.body = right.body

section Agreement

variable {name : String} {left right : Request}

theorem Request.find?_filter_ne {other : String} (hne : other ≠ name) (headers : Headers) :
    (headers.filter fun header => header.1.toLower != name).find?
        (fun header => header.1.toLower == other) =
      headers.find? fun header => header.1.toLower == other := by
  rw [List.find?_filter]
  congr 1
  funext header
  by_cases heq : header.1.toLower = other
  · simp [heq, hne]
  · simp [heq]

theorem Request.AgreesBesides.header? (h : left.AgreesBesides name right) {other : String}
    (hne : other ≠ name) : left.header? other = right.header? other := by
  unfold Request.header?
  rw [← find?_filter_ne hne left.headers, h.headers, find?_filter_ne hne]

theorem Request.AgreesBesides.readBody (h : left.AgreesBesides name right)
    (hne : "content-type" ≠ name) {σ α : Type} (record : Json.Record σ α) :
    left.readBody record = right.readBody record := by
  have hjson : left.announcesJson = right.announcesJson := by
    simp only [announcesJson, printableHeader?, h.header? hne]
  rw [Request.readBody, Request.readBody, hjson, h.body]

theorem Request.AgreesBesides.address? (h : left.AgreesBesides name right) :
    left.address? = right.address? := by
  rw [Request.address?, Request.address?, h.target]

theorem Request.AgreesBesides.resource? (h : left.AgreesBesides name right) :
    left.resource? = right.resource? := by
  rw [Request.resource?, Request.resource?, h.address?]

theorem Request.AgreesBesides.endpoint? (h : left.AgreesBesides name right) :
    left.endpoint? = right.endpoint? := by
  rw [Request.endpoint?, Request.endpoint?, h.resource?, h.method]

theorem Request.AgreesBesides.readQuery (h : left.AgreesBesides name right) :
    left.readQuery = right.readQuery := by
  simp only [Request.readQuery, query, h.address?]

end Agreement

/-! ### The gate -/

/-- What is told where a header does not hold an accepted token. -/
def Bearer.refusal : Option String → Failure
  | none => .unauthorized "Missing Authorization header"
  | some header =>
    match token? header with
    | none => .unauthorized "Invalid Authorization format. Expected: Bearer <token>"
    | some _ => .unauthorized "Invalid or expired token"

theorem Bearer.status_answer_refusal (header : Option String) :
    (refusal header).answer.status = 401 := by
  unfold refusal
  split
  · rfl
  · split <;> rfl

theorem Bearer.eq_refusal_of_error {secret : String} {now : Int64} {header : Option String}
    {failure : Failure} (h : ofHeader secret now header = .error failure) :
    failure = refusal header := by
  unfold ofHeader at h
  split at h
  next =>
    cases h
    rfl
  next text =>
    cases htoken : token? text with
    | none =>
        simp only [htoken] at h
        cases h
        simp [refusal, htoken]
    | some token =>
        simp only [htoken] at h
        cases hvalid : Token.validate secret now token with
        | ok claims =>
            rw [hvalid] at h
            cases h
        | error refused =>
            rw [hvalid] at h
            cases h
            simp [refusal, htoken]

section Gate

variable {access : AccessPolicy} {occasion : Occasion} {request : Request} {α : Type}

theorem requireBearer_bind_of_ok {bearer : Bearer}
    (h : request.bearer access.token.secret occasion.seconds = .ok bearer)
    (behind : Bearer → Handler α) :
    (requireBearer access occasion request >>= behind) = behind bearer := by
  rw [requireBearer, h]
  rfl

theorem requireBearer_bind_of_error {failure : Failure}
    (h : request.bearer access.token.secret occasion.seconds = .error failure)
    (behind : Bearer → Handler α) :
    (requireBearer access occasion request >>= behind) =
      ExceptT.mk (.done (.error (.failed failure))) := by
  rw [requireBearer, h]
  rfl

theorem requireBearer_bind_congr {left right : Request} (other : Uuid)
    (hleft : ∃ bearer, left.bearer access.token.secret occasion.seconds = .ok bearer)
    (hright : ∃ bearer, right.bearer access.token.secret occasion.seconds = .ok bearer)
    (behind : Handler α) :
    (requireBearer access occasion left >>= fun _ => behind) =
      requireBearer access { occasion with requestId := other } right >>= fun _ => behind := by
  obtain ⟨_, hfirst⟩ := hleft
  obtain ⟨_, hsecond⟩ := hright
  calc
    (requireBearer access occasion left >>= fun _ => behind) = behind :=
      requireBearer_bind_of_ok hfirst fun _ => behind
    _ = requireBearer access { occasion with requestId := other } right >>= fun _ => behind :=
      (requireBearer_bind_of_ok hsecond fun _ => behind).symm

end Gate

namespace Endpoint

/-- The endpoints that change templates. -/
def IsGuarded : Endpoint → Prop
  | .createTemplate | .updateTemplate _ | .deleteTemplate _ => True
  | _ => False

variable {access : AccessPolicy} {occasion : Occasion} {left right request : Request}
  {endpoint : Endpoint}

theorem IsGuarded.handle_of_error (hguarded : endpoint.IsGuarded) {failure : Failure}
    (h : request.bearer access.token.secret occasion.seconds = .error failure) :
    endpoint.handle access occasion request = ExceptT.mk (.done (.error (.failed failure))) := by
  cases endpoint with
  | createTemplate | updateTemplate | deleteTemplate => exact requireBearer_bind_of_error h _
  | health | register | login | listTemplates | previewTemplate | getTemplate | renderTemplate
  | listVariables => exact hguarded.elim

/-- What the same request is met with does not depend on the authorization header, as long as the
gate, where there is one, is passed. -/
theorem handle_congr (hagree : left.AgreesBesides "authorization" right) (other : Uuid)
    (hleft : endpoint.IsGuarded →
      ∃ bearer, left.bearer access.token.secret occasion.seconds = .ok bearer)
    (hright : endpoint.IsGuarded →
      ∃ bearer, right.bearer access.token.secret occasion.seconds = .ok bearer) :
    endpoint.handle access occasion left =
      endpoint.handle access { occasion with requestId := other } right := by
  have hbody : ∀ {σ α : Type} (record : Json.Record σ α),
      left.readBody record = right.readBody record :=
    fun record => hagree.readBody (by decide) record
  have hquery := hagree.readQuery
  cases endpoint with
  | health => rfl
  | register =>
      simp only [handle, hbody]
  | login =>
      simp only [handle, hbody]
      rfl
  | listTemplates =>
      simp only [handle, hquery]
  | previewTemplate =>
      simp only [handle, readPreview, hbody]
  | getTemplate segment => rfl
  | renderTemplate segment =>
      simp only [handle, readRendering, hbody]
  | listVariables segment => rfl
  | createTemplate | updateTemplate =>
      simp only [handle, hbody]
      exact requireBearer_bind_congr other (hleft trivial) (hright trivial) _
  | deleteTemplate =>
      exact requireBearer_bind_congr other (hleft trivial) (hright trivial) _

theorem keeps_templates_handle (hopen : ¬endpoint.IsGuarded) :
    Keeps Memory.templates (endpoint.handle access occasion request) := by
  cases endpoint with
  | register =>
      -- The one thing that changes the stores without a token, and it leaves the templates alone.
      refine ((Handler.readsOnly_ofInput _).keeps _).bind fun input => ?_
      have hregister := Accounts.keeps_templates_register access.derive access.minPasswordLength
        occasion.salt input
      exact (hregister.adapt _).bind fun profile => (readsOnly_pure _).keeps _
  | health | login | listTemplates | previewTemplate | getTemplate | renderTemplate
  | listVariables =>
      apply ReadsOnly.keeps
      apply IsReader.readsOnly_handle
      exact trivial
  | createTemplate | updateTemplate | deleteTemplate => exact absurd trivial hopen

end Endpoint

/-! ### Responses but for the identifier of the request -/

def Response.besides (name : String) (response : Response) : Response :=
  { response with headers := response.headers.filter fun header => header.1 != name }

theorem Response.besides_withHeaders (name : String) (response : Response) (headers : Headers) :
    (response.withHeaders headers).besides name =
      (response.besides name).withHeaders (headers.filter fun header => header.1 != name) := by
  simp [besides, withHeaders]

theorem Request.method_ne_head {request : Request} {endpoint : Endpoint}
    (h : request.endpoint? = some endpoint) (hguarded : endpoint.IsGuarded) :
    request.method ≠ "HEAD" := by
  intro hmethod
  obtain ⟨resource, -, hendpoint⟩ := Option.bind_eq_some_iff.mp h
  rw [hmethod] at hendpoint
  cases resource with
  | health | templates | template | variableNames =>
      cases hendpoint
      exact hguarded
  | registration | login | preview | rendering => cases hendpoint

namespace Application

variable (app : Application) (occasion : Occasion) (other : Uuid) {left right request : Request}

theorem complete_besides (hagree : left.AgreesBesides "authorization" right) {name : String}
    {first second : Response} (h : first.besides name = second.besides name) :
    (complete left first).besides name = (complete right second).besides name := by
  have hallowed : allowedMethods left = allowedMethods right := by
    rw [allowedMethods, allowedMethods, hagree.resource?, hagree.method]
  have hlength : bodyLength left first = bodyLength right second := by
    have hbody : (first.besides name).body = (second.besides name).body :=
      congrArg Response.body h
    change first.body = second.body at hbody
    rw [bodyLength, bodyLength, hagree.address?, hagree.resource?, hbody]
  have hwithout : ∀ response : Response,
      response.withoutBody.besides name = (response.besides name).withoutBody := fun _ => rfl
  simp only [complete, hagree.method, hallowed, hlength]
  split
  · rw [hwithout, hwithout, Response.besides_withHeaders, Response.besides_withHeaders, h]
  · rw [Response.besides_withHeaders, Response.besides_withHeaders, h]

theorem finish_besides (hagree : left.AgreesBesides "authorization" right) (response : Response) :
    (app.finish occasion left response).besides requestIdHeader =
      (app.finish { occasion with requestId := other } right response).besides requestIdHeader := by
  have horigin : app.origins.headers left = app.origins.headers right := by
    have hsent : left.header? "origin" = right.header? "origin" := hagree.header? (by decide)
    simp only [Origins.headers, hsent]
  apply complete_besides hagree
  rw [Response.besides_withHeaders, Response.besides_withHeaders, horigin]
  simp

def Admits (request : Request) : Prop :=
  ∃ bearer, request.bearer app.access.token.secret occasion.seconds = .ok bearer

variable {app occasion}

theorem route_congr (hagree : left.AgreesBesides "authorization" right)
    (hleft : ∀ endpoint ∈ left.endpoint?, endpoint.IsGuarded → app.Admits occasion left)
    (hright : ∀ endpoint ∈ left.endpoint?, endpoint.IsGuarded → app.Admits occasion right) :
    app.route occasion left = app.route { occasion with requestId := other } right := by
  have hsame := hagree.endpoint?
  cases hendpoint : left.endpoint? with
  | some endpoint =>
      rw [route_of_endpoint? app occasion hendpoint,
        route_of_endpoint? app _ (hsame.symm.trans hendpoint)]
      rw [Endpoint.handle_congr hagree other (hleft endpoint hendpoint)
        (hright endpoint hendpoint)]
  | none =>
      rw [route, route, ← hagree.resource?]
      rw [Request.endpoint?] at hendpoint
      cases hresource : left.resource? with
      | none => rfl
      | some resource =>
          rw [hresource, Option.bind_some] at hendpoint
          simp only [← hagree.method, hendpoint]

theorem serve_of_options (h : request.method = "OPTIONS") (store : Store) :
    app.serve occasion store request =
      (complete request (app.origins.preflight request), store) := by
  rw [serve, respond, if_pos h]
  cases store <;> rfl

theorem serve_of_ne_options (h : request.method ≠ "OPTIONS") (store : Store) :
    app.serve occasion store request =
      (app.finish occasion request (store.run occasion.now (app.route occasion request)).1,
        (store.run occasion.now (app.route occasion request)).2) := by
  rw [serve, respond, if_neg h]
  exact store.run_bind_done occasion.now _ (app.finish occasion request)

/-- Two requests that differ in the authorization header alone are met alike, unless one of them is
turned away at the gate. -/
theorem serve_congr (store : Store) (hagree : left.AgreesBesides "authorization" right)
    (hleft : ∀ endpoint ∈ left.endpoint?, endpoint.IsGuarded → app.Admits occasion left)
    (hright : ∀ endpoint ∈ left.endpoint?, endpoint.IsGuarded → app.Admits occasion right) :
    let first := app.serve occasion store left
    let second := app.serve { occasion with requestId := other } store right
    first.1.besides requestIdHeader = second.1.besides requestIdHeader ∧ first.2 = second.2 := by
  intro first second
  by_cases hoptions : left.method = "OPTIONS"
  · have hfirst : first = _ := serve_of_options hoptions store
    have hsecond : second = _ := serve_of_options (hagree.method.symm.trans hoptions) store
    have horigin : app.origins.preflight left = app.origins.preflight right := by
      have hsent : left.header? "origin" = right.header? "origin" := hagree.header? (by decide)
      simp only [Origins.preflight, Origins.headers, hsent]
    rw [hfirst, hsecond, horigin]
    exact ⟨complete_besides hagree rfl, rfl⟩
  · have hfirst : first = _ := serve_of_ne_options hoptions store
    have hsecond : second = _ :=
      serve_of_ne_options (fun h => hoptions (hagree.method.trans h)) store
    rw [hfirst, hsecond, ← route_congr other hagree hleft hright]
    exact ⟨finish_besides app occasion other hagree _, rfl⟩

theorem serve_of_error (store : Store) {endpoint : Endpoint}
    (hendpoint : request.endpoint? = some endpoint) (hguarded : endpoint.IsGuarded)
    {failure : Failure}
    (h : request.bearer app.access.token.secret occasion.seconds = .error failure) :
    app.serve occasion store request =
      (app.finish occasion request (Refusal.failed failure).response, store) := by
  have hroute : app.route occasion request = .done (Refusal.failed failure).response := by
    rw [route_of_endpoint? app occasion hendpoint, hguarded.handle_of_error h]
    rfl
  rw [serve_of_ne_options (Request.method_ne_options hendpoint), hroute]
  cases store <;> rfl

theorem templates_serve_of_not_isGuarded {memory : Memory}
    (hopen : ∀ endpoint ∈ request.endpoint?, ¬endpoint.IsGuarded) :
    ∃ after, (app.serve occasion (.memory memory) request).2 = .memory after ∧
      after.templates = memory.templates := by
  cases hendpoint : request.endpoint? with
  | none => exact ⟨memory, app.snd_serve_of_endpoint?_eq_none occasion memory hendpoint, rfl⟩
  | some endpoint =>
      have hserve := app.serve_of_endpoint? occasion memory hendpoint
      have hkeeps : Keeps Memory.templates (endpoint.handle app.access occasion request) :=
        Endpoint.keeps_templates_handle (hopen endpoint hendpoint)
      exact ⟨_, congrArg Prod.snd hserve, hkeeps occasion.now memory⟩

/-- **The authorization header matters only at the gate.** Of two requests that differ in that
header alone, both get the same response, up to the identifier of the request, and leave the same
in the stores, where no token is asked for or where both tokens are accepted. Who is turned away
gets a 401 that tells what is wrong with the header, and the stores stay as they are. So the
templates change only for an accepted token. -/
theorem authorization_matters_only_at_gate (store : Store)
    (hagree : left.AgreesBesides "authorization" right) :
    let first := app.serve occasion store left
    let second := app.serve { occasion with requestId := other } store right
    let metAlike :=
      first.1.besides requestIdHeader = second.1.besides requestIdHeader ∧ first.2 = second.2
    ((∀ endpoint ∈ left.endpoint?, ¬endpoint.IsGuarded) → metAlike) ∧
    ((∃ endpoint ∈ left.endpoint?, endpoint.IsGuarded) → ¬app.Admits occasion left →
      first.1.status = 401 ∧
      first.1.body = (Bearer.refusal (left.printableHeader? "authorization")).answer.toJson.text ∧
      first.2 = store) ∧
    (app.Admits occasion left → app.Admits occasion right → metAlike) ∧
    ∀ before after, store = .memory before → first.2 = .memory after →
      after.templates ≠ before.templates → app.Admits occasion left := by
  intro first second metAlike
  have hturned : ∀ endpoint ∈ left.endpoint?, endpoint.IsGuarded → ¬app.Admits occasion left →
      first = (app.finish occasion left (Refusal.failed
        (Bearer.refusal (left.printableHeader? "authorization"))).response, store) := by
    intro endpoint hendpoint hguarded hrefused
    cases hbearer : left.bearer app.access.token.secret occasion.seconds with
    | ok bearer => exact absurd ⟨bearer, hbearer⟩ hrefused
    | error failure =>
        rw [← Bearer.eq_refusal_of_error hbearer]
        exact serve_of_error store hendpoint hguarded hbearer
  refine ⟨fun hopen => ?_, ?_, fun hleft hright => ?_, ?_⟩
  · exact serve_congr other store hagree (fun e he hguarded => absurd hguarded (hopen e he))
      fun e he hguarded => absurd hguarded (hopen e he)
  · rintro ⟨endpoint, hendpoint, hguarded⟩ hrefused
    rw [hturned endpoint hendpoint hguarded hrefused]
    have hhead := Request.method_ne_head hendpoint hguarded
    refine ⟨?_, ?_, rfl⟩
    · rw [status_finish]
      exact Bearer.status_answer_refusal _
    · simp only [finish, complete, if_neg hhead]
      rfl
  · exact serve_congr other store hagree (fun _ _ _ => hleft) fun _ _ _ => hright
  · rintro before after rfl hafter hchanged
    by_cases hadmits : app.Admits occasion left
    · exact hadmits
    exfalso
    apply hchanged
    by_cases hguarded : ∃ endpoint ∈ left.endpoint?, endpoint.IsGuarded
    · obtain ⟨endpoint, hendpoint, hguarded⟩ := hguarded
      rw [hturned endpoint hendpoint hguarded hadmits] at hafter
      cases hafter
      rfl
    · have hopen : ∀ endpoint ∈ left.endpoint?, ¬endpoint.IsGuarded :=
        fun endpoint hendpoint hguard => hguarded ⟨endpoint, hendpoint, hguard⟩
      obtain ⟨kept, hkept, htemplates⟩ := templates_serve_of_not_isGuarded hopen
      rw [hafter] at hkept
      cases hkept
      exact htemplates

/-- A listing is met alike with a header that holds no token and without one, and a deletion with
that header is turned away and deletes nothing. -/
theorem basic_credentials_matter_only_for_deletion :
    let app : Application :=
      { access :=
          { token := { secret := "secret", expiryMinutes := 60 }
            minPasswordLength := 8
            derive := fun _ _ _ _ => [] }
        origins := ⟨[], List.not_mem_nil⟩ }
    let occasion : Occasion :=
      { now := ⟨0, 0⟩
        salt := []
        tokenId := .ofRandom fun _ => 0
        requestId := .ofRandom fun _ => 1 }
    let letter : NewTemplate :=
      { title := "Letter", description := none, content := .plain "Dear", category := .other }
    let store := Store.memory ⟨(TemplateTable.empty.create letter ⟨0, 0⟩).2, .empty⟩
    let listing : Request :=
      { method := "GET", target := "/api/v1/templates?page=1", headers := [], body := [] }
    let deletion : Request :=
      { method := "DELETE", target := "/api/v1/templates/1", headers := [], body := [] }
    let basic : Headers := [("Authorization", "Basic eDp5")]
    let listed := app.serve occasion store listing
    let listedFor := app.serve { occasion with requestId := .ofRandom fun _ => 2 } store
      { listing with headers := basic }
    let deleted := app.serve occasion store { deletion with headers := basic }
    listed.1.besides requestIdHeader = listedFor.1.besides requestIdHeader ∧
      listed.2 = listedFor.2 ∧ deleted.1.status = 401 ∧ deleted.2 = store := by
  intro app occasion letter store listing deletion basic listed listedFor deleted
  have hlisting : listing.AgreesBesides "authorization" { listing with headers := basic } :=
    ⟨rfl, rfl, by decide +kernel, rfl⟩
  have hdeletion : Request.AgreesBesides "authorization" { deletion with headers := basic }
      deletion := ⟨rfl, rfl, by decide +kernel, rfl⟩
  have hlists : listing.endpoint? = some .listTemplates := by decide +kernel
  have hdeletes : Request.endpoint? { deletion with headers := basic } =
      some (.deleteTemplate "1") := by decide +kernel
  have hopen : ∀ endpoint ∈ listing.endpoint?, ¬endpoint.IsGuarded := by
    intro endpoint hendpoint
    rw [hlists] at hendpoint
    cases hendpoint
    exact id
  have hrefused : ¬app.Admits occasion { deletion with headers := basic } := by
    have hbearer : Request.bearer { deletion with headers := basic } "secret" occasion.seconds =
        .error (.unauthorized "Invalid Authorization format. Expected: Bearer <token>") := by
      decide +kernel
    rintro ⟨bearer, hbearer'⟩
    rw [hbearer] at hbearer'
    cases hbearer'
  obtain ⟨hmet, -⟩ := authorization_matters_only_at_gate (.ofRandom fun _ => 2) store hlisting
  obtain ⟨-, hturned, -⟩ :=
    authorization_matters_only_at_gate (.ofRandom fun _ => 2) store hdeletion
  obtain ⟨hstatus, -, hstore⟩ := hturned ⟨_, hdeletes, trivial⟩ hrefused
  exact ⟨(hmet hopen).1, (hmet hopen).2, hstatus, hstore⟩

end Application

end FormLetter.Http
