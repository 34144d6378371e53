import FormLetter.Proofs.Http.Authorization
import FormLetter.Proofs.Service.Refusal

/-!
# What is decided without the stores

Whether a request comes to ask the stores depends on the request and on the time, and not on what
the stores hold. All that can be held against a request without asking is told before anything is
asked, whatever stores there are. Where stores are asked that fail, the client learns that something
failed and nothing of what it was.
-/

namespace FormLetter.Http

open Program

/-- What is told where a store fails. -/
def Response.internal : Response :=
  .json 500 Failure.Answer.internal.toJson

/-- What a refused call ends in. -/
abbrev Refusal.ofDatabase : DatabaseError → Refusal :=
  .failed ∘ .database

theorem Refusal.response_ofDatabase {error : DatabaseError} (h : ¬error.TellsDuplicate) :
    (ofDatabase error).response = .internal := by
  rw [ofDatabase, Function.comp_apply, response, Failure.answer_database h]
  rfl

namespace Handler

section

variable {α β : Type}

theorem ofInput_ok_bind (a : α) (f : α → Handler β) : (ofInput (.ok a) >>= f) = f a :=
  rfl

theorem ofFailure_ok_bind (a : α) (f : α → Handler β) : (ofFailure (.ok a) >>= f) = f a :=
  rfl

theorem ofFailure_error_bind (failure : Failure) (f : α → Handler β) :
    (ofFailure (.error failure) >>= f) = ExceptT.mk (.done (.error (.failed failure))) :=
  rfl

theorem ofService_error_bind (failure : Failure) (f : α → Handler β) :
    (ofService (Service.ofExcept (.error failure)) >>= f) =
      ExceptT.mk (.done (.error (.failed failure))) :=
  rfl

end

theorem response_eq_bind_told (handler : Handler Response) :
    handler.response = handler.run.bind fun result => .done (told result) := by
  refine congrArg handler.run.bind (funext fun result => ?_)
  cases result <;> rfl

theorem asks_response_iff {handler : Handler Response} :
    handler.response.Asks ↔ handler.run.Asks := by
  rw [response_eq_bind_told]
  cases handler.run <;> exact Iff.rfl

end Handler

namespace Endpoint

variable (access : AccessPolicy) (request : Request)

/-- What holds a request up at an endpoint although no store has been asked: who makes the request,
or what is sent with it. -/
inductive TurnsDown (occasion : Occasion) : Endpoint → Failure → Prop where
  | bearer {endpoint : Endpoint} {failure : Failure} (guarded : endpoint.IsGuarded)
      (refused : request.bearer access.token.secret occasion.seconds = .error failure) :
      TurnsDown occasion endpoint failure
  | credentials {input : Credentials} {failure : Failure}
      (sent : request.readBody Credentials.registration = .ok input)
      (refused : Accounts.accept access.derive access.minPasswordLength occasion.salt input =
        .error failure) :
      TurnsDown occasion .register failure
  | creation {bearer : Bearer} {input : CreateRequest} {failure : Failure}
      (admitted : request.bearer access.token.secret occasion.seconds = .ok bearer)
      (sent : request.readBody CreateRequest.record = .ok input)
      (refused : Templates.accept input = .error failure) :
      TurnsDown occasion .createTemplate failure
  | change {segment : String} {id : Int} {bearer : Bearer} {input : UpdateRequest}
      {failure : Failure}
      (admitted : request.bearer access.token.secret occasion.seconds = .ok bearer)
      (named : readId segment = .ok id)
      (sent : request.readBody UpdateRequest.record = .ok input)
      (refused : Templates.acceptPatch input = .error failure) :
      TurnsDown occasion (.updateTemplate segment) failure
  | values {segment : String} {id : Int} {failure : Failure} (named : readId segment = .ok id)
      (refused : Templates.requireVariables (readRendering request).values = .error failure) :
      TurnsDown occasion (.renderTemplate segment) failure
  | preview {input : PreviewRequest} {failure : Failure} (sent : readPreview request = .ok input)
      (refused : Templates.preview input = .error failure) :
      TurnsDown occasion .previewTemplate failure

variable {access request} {occasion other : Occasion} {endpoint : Endpoint}

theorem TurnsDown.handle_eq {failure : Failure}
    (h : TurnsDown access request occasion endpoint failure) :
    endpoint.handle access occasion request = ExceptT.mk (.done (.error (.failed failure))) := by
  cases h with
  | bearer guarded refused => exact guarded.handle_of_error refused
  | credentials sent refused =>
      simp only [handle, sent, Handler.ofInput_ok_bind, Accounts.register_of_error refused,
        Handler.ofService_error_bind]
  | creation admitted sent refused =>
      simp only [handle, requireBearer_bind_of_ok admitted, sent, Handler.ofInput_ok_bind,
        Templates.create_of_error refused, Handler.ofService_error_bind]
  | change admitted named sent refused =>
      simp only [handle, requireBearer_bind_of_ok admitted, named, sent, Handler.ofInput_ok_bind,
        Templates.update_of_error refused, Handler.ofService_error_bind]
  | values named refused =>
      simp only [handle, named, Handler.ofInput_ok_bind, Templates.render_of_error refused,
        Handler.ofService_error_bind]
  | preview sent refused =>
      simp only [handle, sent, Handler.ofFailure_ok_bind, refused, Handler.ofFailure_error_bind]

theorem not_asks_preview :
    ¬(Endpoint.previewTemplate.handle access occasion request).run.Asks := by
  rw [handle]
  cases readPreview request with
  | error failure => exact id
  | ok input =>
      rw [Handler.ofFailure_ok_bind]
      cases Templates.preview input <;> exact id

/-- At the same time every endpoint but the one for health decides alike, whatever random values are
at hand. -/
theorem decidedAlike_handle (hnow : other.now = occasion.now) (hhealth : endpoint ≠ .health) :
    DecidedAlike Refusal.ofDatabase (endpoint.handle access occasion request)
      (endpoint.handle access other request) := by
  have hseconds : other.seconds = occasion.seconds := by rw [Occasion.seconds, hnow]; rfl
  have hinput : ∀ {α : Type} (input : Except InputFault α),
      DecidedAlike Refusal.ofDatabase (Handler.ofInput input) (Handler.ofInput input) :=
    fun input => .done _
  have hfailure : ∀ {α : Type} (result : Except Failure α),
      DecidedAlike Refusal.ofDatabase (Handler.ofFailure result) (Handler.ofFailure result) :=
    fun result => .done _
  have hoption : ∀ {α : Type} (result : Option α),
      DecidedAlike Refusal.ofDatabase (Handler.ofOption result) (Handler.ofOption result) :=
    fun result => .done _
  have hpure : ∀ {α : Type} (a : α),
      DecidedAlike Refusal.ofDatabase (pure a : Handler α) (pure a) := fun a => .done (.ok a)
  have hbearer : DecidedAlike Refusal.ofDatabase (requireBearer access occasion request)
      (requireBearer access other request) := by
    rw [requireBearer, requireBearer, hseconds]
    exact hfailure _
  cases endpoint with
  | health => exact absurd rfl hhealth
  | register =>
      refine (hinput _).bind fun input => ?_
      exact ((Accounts.decidedAlike_register access.derive _ _ _ input).adapt Refusal.failed).bind
        fun profile => hpure _
  | login =>
      refine (hinput _).bind fun input => ?_
      rw [hseconds]
      exact ((Accounts.decidedAlike_login access.derive _ _ _ _ input).adapt Refusal.failed).bind
        fun grant => (hoption grant).bind fun grant => hpure _
  | listTemplates =>
      refine (hinput _).bind fun input => ?_
      exact ((Templates.decidedAlike_list input).adapt Refusal.failed).bind
        fun page => (hoption page).bind fun page => hpure _
  | createTemplate =>
      refine hbearer.bind fun _ => (hinput _).bind fun input => ?_
      exact ((Templates.decidedAlike_create input).adapt Refusal.failed).bind
        fun template => hpure _
  | previewTemplate =>
      exact (hfailure _).bind fun input => (hfailure _).bind fun rendering => hpure _
  | getTemplate segment =>
      refine (hinput _).bind fun id => ?_
      exact ((Templates.decidedAlike_get id).adapt Refusal.failed).bind fun template => hpure _
  | updateTemplate segment =>
      refine hbearer.bind fun _ => (hinput _).bind fun id => (hinput _).bind fun input => ?_
      exact ((Templates.decidedAlike_update id input).adapt Refusal.failed).bind
        fun template => hpure _
  | deleteTemplate segment =>
      refine hbearer.bind fun _ => (hinput _).bind fun id => ?_
      exact ((Templates.decidedAlike_delete id).adapt Refusal.failed).bind fun _ => hpure _
  | renderTemplate segment =>
      refine (hinput _).bind fun id => ?_
      exact ((Templates.decidedAlike_render id _).adapt Refusal.failed).bind
        fun rendering => hpure _
  | listVariables segment =>
      refine (hinput _).bind fun id => ?_
      exact ((Templates.decidedAlike_variableNames id).adapt Refusal.failed).bind
        fun names => hpure _

end Endpoint

namespace Application

variable (app : Application) {occasion other : Occasion} {request : Request}

/-- The calls to the stores that a request leads to. -/
def calls (occasion : Occasion) (memory : Memory) (request : Request) : List StoreCall :=
  (app.respond occasion request).calls occasion.now memory

theorem calls_eq_nil_of_endpoint?_eq_none (h : request.endpoint? = none) (memory : Memory) :
    app.calls occasion memory request = [] := by
  obtain ⟨response, hrespond⟩ := app.exists_respond_eq_done occasion h
  rw [calls, hrespond]
  rfl

theorem body_finish (response : Response) :
    (app.finish occasion request response).body =
      if request.method = "HEAD" then "" else response.body := by
  rw [finish, complete]
  split <;> rfl

theorem finish_besides_self (response : Response) :
    (app.finish occasion request response).besides requestIdHeader =
      (app.finish other request response).besides requestIdHeader :=
  finish_besides app occasion other.requestId ⟨rfl, rfl, rfl, rfl⟩ response

theorem serve_besides_of_endpoint?_eq_none (h : request.endpoint? = none) (left right : Store) :
    (app.serve occasion left request).1.besides requestIdHeader =
      (app.serve other right request).1.besides requestIdHeader := by
  by_cases hoptions : request.method = "OPTIONS"
  · rw [serve_of_options hoptions, serve_of_options hoptions]
  · rw [serve_of_ne_options hoptions, serve_of_ne_options hoptions]
    have hroute : ∃ response, ∀ occasion, app.route occasion request = .done response := by
      cases hresource : request.resource? with
      | none => exact ⟨_, fun occasion => by rw [route, hresource]; rfl⟩
      | some resource =>
          rw [Request.endpoint?, hresource, Option.bind_some] at h
          exact ⟨_, fun occasion => by simp only [route, hresource, h]; rfl⟩
    obtain ⟨response, hresponse⟩ := hroute
    rw [hresponse, hresponse]
    cases left <;> cases right <;> exact app.finish_besides_self response

section

variable {endpoint : Endpoint} (h : request.endpoint? = some endpoint)

include h

theorem calls_eq_nil_iff_of_endpoint? (memory : Memory) :
    app.calls occasion memory request = [] ↔
      ¬(endpoint.handle app.access occasion request).run.Asks := by
  rw [calls, calls_eq_nil_iff, respond_of_endpoint? app occasion h, ← Handler.asks_response_iff]
  cases (endpoint.handle app.access occasion request).response <;> exact Iff.rfl

theorem fst_serve_of_endpoint? (store : Store) :
    (app.serve occasion store request).1 =
      app.finish occasion request (Handler.told
        (store.run occasion.now (endpoint.handle app.access occasion request).run).1) := by
  rw [serve_of_ne_options (Request.method_ne_options h), route_of_endpoint? app occasion h,
    Handler.response_eq_bind_told, Store.run_bind_done]

theorem fst_serve_of_handle_eq {result : Except Refusal Response}
    (hhandle : endpoint.handle app.access occasion request = ExceptT.mk (.done result))
    (store : Store) :
    (app.serve occasion store request).1 =
      app.finish occasion request (Handler.told result) := by
  rw [app.fst_serve_of_endpoint? h, hhandle]
  cases store <;> rfl

/-- What is told is the error of the first call. -/
theorem fst_serve_refusing_of_givesUp
    (hgives : GivesUp Refusal.ofDatabase (endpoint.handle app.access occasion request))
    (errors : Nat → DatabaseError) :
    (app.serve occasion (.refusing errors) request).1 =
      app.finish occasion request (Refusal.ofDatabase (errors 0)).response := by
  obtain ⟨call, next, hcall, hrefused⟩ := hgives
  rw [app.fst_serve_of_endpoint? h, hcall]
  simp only [Store.run, runRefused, hrefused]
  rfl

theorem fst_serve_of_givesUp
    (hgives : GivesUp Refusal.ofDatabase (endpoint.handle app.access occasion request))
    {errors : Nat → DatabaseError} (herrors : ∀ n, ¬(errors n).TellsDuplicate) :
    (app.serve occasion (.refusing errors) request).1 =
      app.finish occasion request .internal := by
  rw [app.fst_serve_refusing_of_givesUp h hgives, Refusal.response_ofDatabase (herrors 0)]

end

theorem fst_serve_health_of_refusing (h : request.endpoint? = some .health)
    (errors : Nat → DatabaseError) :
    (app.serve occasion (.refusing errors) request).1 =
      app.finish occasion request (.json 200 (healthJson false)) := by
  rw [app.fst_serve_of_endpoint? h]
  rfl

theorem serve_besides_of_calls_eq_nil (hnow : other.now = occasion.now) {memory : Memory}
    (hnone : app.calls occasion memory request = []) (left right : Store) :
    (app.serve occasion left request).1.besides requestIdHeader =
      (app.serve other right request).1.besides requestIdHeader := by
  cases hendpoint : request.endpoint? with
  | none => exact app.serve_besides_of_endpoint?_eq_none hendpoint left right
  | some endpoint =>
      rw [app.calls_eq_nil_iff_of_endpoint? hendpoint] at hnone
      have hhealth : endpoint ≠ .health := by
        rintro rfl
        exact hnone trivial
      cases Endpoint.decidedAlike_handle hnow hhealth with
      | decided result hleft hright =>
          rw [app.fst_serve_of_handle_eq hendpoint hleft,
            app.fst_serve_of_handle_eq hendpoint hright]
          exact app.finish_besides_self _
      | asking hleft hright => exact absurd hleft hnone

theorem fst_serve_refusing_of_calls_ne_nil (hnow : other.now = occasion.now)
    {errors : Nat → DatabaseError} (herrors : ∀ n, ¬(errors n).TellsDuplicate) {memory : Memory}
    (hsome : app.calls occasion memory request ≠ []) (hhealth : request.endpoint? ≠ some .health) :
    (app.serve other (.refusing errors) request).1 = app.finish other request .internal := by
  cases hendpoint : request.endpoint? with
  | none => exact absurd (app.calls_eq_nil_of_endpoint?_eq_none hendpoint memory) hsome
  | some endpoint =>
      rw [Ne, app.calls_eq_nil_iff_of_endpoint? hendpoint, not_not] at hsome
      have hne : endpoint ≠ .health := fun heq => hhealth (heq ▸ hendpoint)
      cases Endpoint.decidedAlike_handle hnow hne with
      | decided result hleft hright =>
          rw [hleft] at hsome
          exact hsome.elim
      | asking hleft hright => exact app.fst_serve_of_givesUp hendpoint hright herrors

/-- Nothing that a store reports comes through in a response. -/
theorem fst_serve_refusing_congr {errors reported : Nat → DatabaseError}
    (herrors : ∀ n, ¬(errors n).TellsDuplicate) (hreported : ∀ n, ¬(reported n).TellsDuplicate)
    (occasion : Occasion) (request : Request) :
    (app.serve occasion (.refusing errors) request).1 =
      (app.serve occasion (.refusing reported) request).1 := by
  cases hendpoint : request.endpoint? with
  | none =>
      obtain ⟨response, hrespond⟩ := app.exists_respond_eq_done occasion hendpoint
      rw [serve, serve, hrespond]
      rfl
  | some endpoint =>
      by_cases hhealth : endpoint = .health
      · subst hhealth
        rw [app.fst_serve_health_of_refusing hendpoint, app.fst_serve_health_of_refusing hendpoint]
      · cases Endpoint.decidedAlike_handle rfl hhealth with
        | decided result hhandle =>
            rw [app.fst_serve_of_handle_eq hendpoint hhandle,
              app.fst_serve_of_handle_eq hendpoint hhandle]
        | asking _ hgives =>
            rw [app.fst_serve_of_givesUp hendpoint hgives herrors,
              app.fst_serve_of_givesUp hendpoint hgives hreported]

variable {app}

/-- **The stores matter only where they are asked.** Whether a request leads to a call does not
depend on what is stored. Without a call the response is the same over stores that refuse, up to the
identifier of the request. With one it is the one response for what fails inside, except that health
is told to be degraded; a HEAD request is never told a body. In every case other reports of the
stores, with other codes, constraints and texts, lead to the same response. What can be held against
a request without the stores is told without them, and so is every preview. -/
theorem stores_matter_only_where_asked (hnow : other.now = occasion.now)
    {errors : Nat → DatabaseError} (herrors : ∀ n, ¬(errors n).TellsDuplicate) (memory : Memory) :
    let met := (app.serve occasion (.memory memory) request).1
    let refused := (app.serve other (.refusing errors) request).1
    let body (text : String) := if request.method = "HEAD" then "" else text
    (∀ memory', app.calls occasion memory request = [] ↔
      app.calls occasion memory' request = []) ∧
    (app.calls occasion memory request = [] →
      met.besides requestIdHeader = refused.besides requestIdHeader) ∧
    (app.calls occasion memory request ≠ [] → request.endpoint? ≠ some .health →
      refused = app.finish other request .internal ∧ refused.status = 500 ∧
        refused.body = body Failure.Answer.internal.toJson.text) ∧
    (request.endpoint? = some .health → app.calls occasion memory request ≠ [] ∧
      refused.status = 200 ∧ refused.body = body (healthJson false).text) ∧
    (∀ reported : Nat → DatabaseError, (∀ n, ¬(reported n).TellsDuplicate) →
      (app.serve other (.refusing reported) request).1 = refused) ∧
    (∀ endpoint failure, request.endpoint? = some endpoint →
      endpoint.TurnsDown app.access request occasion failure →
      app.calls occasion memory request = [] ∧
        met = app.finish occasion request (Refusal.failed failure).response) ∧
    (request.endpoint? = some .previewTemplate → app.calls occasion memory request = []) := by
  intro met refused body
  refine ⟨fun memory' => ?_, fun hnone => ?_, fun hsome hhealth => ?_, fun hhealth => ?_,
    fun reported hreported => app.fst_serve_refusing_congr hreported herrors other request,
    fun endpoint failure hendpoint hdown => ?_, fun hpreview => ?_⟩
  · rw [calls, calls, calls_eq_nil_iff, calls_eq_nil_iff]
  · exact app.serve_besides_of_calls_eq_nil hnow hnone _ _
  · have hrefused : refused = _ := app.fst_serve_refusing_of_calls_ne_nil hnow herrors hsome hhealth
    rw [hrefused]
    exact ⟨rfl, status_finish app other request _, app.body_finish _⟩
  · have hrefused : refused = _ := app.fst_serve_health_of_refusing hhealth errors
    rw [hrefused, Ne, app.calls_eq_nil_iff_of_endpoint? hhealth, not_not]
    exact ⟨trivial, status_finish app other request _, app.body_finish _⟩
  · have hhandle := hdown.handle_eq
    rw [app.calls_eq_nil_iff_of_endpoint? hendpoint, hhandle]
    exact ⟨id, app.fst_serve_of_handle_eq hendpoint hhandle _⟩
  · rw [app.calls_eq_nil_iff_of_endpoint? hpreview]
    exact Endpoint.not_asks_preview

/-- An application that keeps no digests of passwords, for requests that do not come to them. -/
def withoutDigests : Application where
  access :=
    { token := { secret := "secret", expiryMinutes := 60 }
      minPasswordLength := 8
      derive := fun _ _ _ _ => [] }
  origins := ⟨[], List.not_mem_nil⟩

/-- The occasion on which all random bits are the same. -/
def firstOccasion : Occasion where
  now := ⟨0, 0⟩
  salt := []
  tokenId := .ofRandom fun _ => 0
  requestId := .ofRandom fun _ => 0

theorem unique_key_is_not_told :
    let other : Occasion :=
      { firstOccasion with salt := [7], requestId := .ofRandom fun _ => 1 }
    let errors : Nat → DatabaseError := fun _ =>
      .rejected (some "23505") (some "users_username_key") "anna is already there"
    let registration : Request :=
      { method := "POST"
        target := "/api/v1/auth/register"
        headers := [("Content-Type", "application/json")]
        body := Utf8.encode "[\"anna\", \"password\"]" }
    let reported : Nat → DatabaseError := fun _ => .other "connection reset by peer"
    let refused := (withoutDigests.serve other (.refusing errors) registration).1
    other.now = firstOccasion.now ∧ (∀ n, ¬(errors n).TellsDuplicate) ∧
      withoutDigests.calls firstOccasion .empty registration ≠ [] ∧ refused.status = 500 ∧
      refused.body = Failure.Answer.internal.toJson.text ∧
      (withoutDigests.serve other (.refusing reported) registration).1 = refused := by
  intro other errors registration reported refused
  have herrors : ∀ n, ¬(errors n).TellsDuplicate :=
    fun n => DatabaseError.duplicate?_eq_none_iff.mp (by decide +kernel)
  have hendpoint : registration.endpoint? = some .register := by decide +kernel
  have hasks : withoutDigests.calls firstOccasion .empty registration ≠ [] := by
    rw [Ne, withoutDigests.calls_eq_nil_iff_of_endpoint? hendpoint, not_not]
    decide +kernel
  have hhealth : registration.endpoint? ≠ some .health := by
    rw [hendpoint]
    decide
  have hnow : other.now = firstOccasion.now := rfl
  have hreported : ∀ n, ¬(reported n).TellsDuplicate :=
    fun n => DatabaseError.duplicate?_eq_none_iff.mp rfl
  obtain ⟨-, -, htold, -, halike, -⟩ := stores_matter_only_where_asked hnow herrors .empty
  obtain ⟨-, hstatus, hbody⟩ := htold hasks hhealth
  exact ⟨hnow, herrors, hasks, hstatus, hbody, halike reported hreported⟩

/-- A HEAD request over stores that refuse learns that something failed from the status alone. -/
theorem head_request_is_refused_without_body :
    let errors : Nat → DatabaseError := fun _ => .poolTimedOut
    let listing : Request :=
      { method := "HEAD", target := "/api/v1/templates", headers := [], body := [] }
    let refused := (withoutDigests.serve firstOccasion (.refusing errors) listing).1
    (∀ n, ¬(errors n).TellsDuplicate) ∧ withoutDigests.calls firstOccasion .empty listing ≠ [] ∧
      listing.endpoint? ≠ some .health ∧ refused.status = 500 ∧
      refused.body ≠ Failure.Answer.internal.toJson.text := by
  intro errors listing refused
  have herrors : ∀ n, ¬(errors n).TellsDuplicate :=
    fun n => DatabaseError.duplicate?_eq_none_iff.mp rfl
  have hendpoint : listing.endpoint? = some .listTemplates := by decide +kernel
  have hasks : withoutDigests.calls firstOccasion .empty listing ≠ [] := by
    rw [Ne, withoutDigests.calls_eq_nil_iff_of_endpoint? hendpoint, not_not]
    decide +kernel
  have hhealth : listing.endpoint? ≠ some .health := by
    rw [hendpoint]
    decide
  have hstatus : refused.status = 500 := by decide +kernel
  have hbody : refused.body ≠ Failure.Answer.internal.toJson.text := by decide +kernel
  exact ⟨herrors, hasks, hhealth, hstatus, hbody⟩

end Application

end FormLetter.Http
