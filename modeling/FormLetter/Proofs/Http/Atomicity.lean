import FormLetter.Proofs.Http.Dispatch
import FormLetter.Proofs.Service.Effect

/-!
# Requests take effect wholly or not at all

An endpoint reads what is sent, asks one service and then words the answer. Where it stops early the
service has not been asked, and where the service fails it has left the stores alone, so a response
that does not tell of a success tells that nothing has changed.
-/

namespace FormLetter.Http

open Program

namespace Handler

variable {α : Type}

/-- What is told in the end, whether the request is met or turned down. -/
def told : Except Refusal Response → Response
  | .ok response => response
  | .error refusal => refusal.response

theorem run_response (now : Timestamp) (handler : Handler Response) (memory : Memory) :
    handler.response.run now memory =
      (told (attempt now handler memory).1, (attempt now handler memory).2) := by
  rw [response, Program.run_bind, attempt]
  cases (Program.run now handler.run memory).1 <;> rfl

theorem readsOnly_ofInput (input : Except InputFault α) : ReadsOnly (ofInput input) :=
  readsOnly_done _

theorem readsOnly_ofFailure (result : Except Failure α) : ReadsOnly (ofFailure result) :=
  readsOnly_done _

theorem readsOnly_ofOption (result : Option α) : ReadsOnly (ofOption result) :=
  readsOnly_done _

end Handler

/-- The statuses from 200 up to 299 tell of a success. -/
def Response.IsSuccess (response : Response) : Prop :=
  200 ≤ response.status ∧ response.status < 300

instance : DecidablePred Response.IsSuccess :=
  fun response => inferInstanceAs (Decidable (200 ≤ response.status ∧ response.status < 300))

theorem Response.isSuccess_json {status : Nat} (h : 200 ≤ status ∧ status < 300)
    (value : Json.Value) : (Response.json status value).IsSuccess :=
  h

namespace Endpoint

/-- Whether an endpoint is there to tell something and not to change anything. -/
def IsReader : Endpoint → Prop
  | .health | .login | .listTemplates | .previewTemplate => True
  | .getTemplate _ | .renderTemplate _ | .listVariables _ => True
  | .register | .createTemplate | .updateTemplate _ | .deleteTemplate _ => False

variable (access : AccessPolicy) (occasion : Occasion) (request : Request) (endpoint : Endpoint)

theorem readsOnly_requireBearer : ReadsOnly (requireBearer access occasion request) :=
  Handler.readsOnly_ofFailure _

theorem IsReader.readsOnly_handle {endpoint : Endpoint} (h : endpoint.IsReader) :
    ReadsOnly (endpoint.handle access occasion request) := by
  cases endpoint with
  | health => exact Templates.readsOnly_healthy.bind fun healthy => readsOnly_pure _
  | login =>
      refine (Handler.readsOnly_ofInput _).bind fun input => ?_
      refine ((Accounts.readsOnly_login _ _ _ _ input).adapt _).bind fun grant => ?_
      exact (Handler.readsOnly_ofOption grant).bind fun grant => readsOnly_pure _
  | listTemplates =>
      refine (Handler.readsOnly_ofInput _).bind fun input => ?_
      refine ((Templates.readsOnly_list input).adapt _).bind fun page => ?_
      exact (Handler.readsOnly_ofOption page).bind fun page => readsOnly_pure _
  | previewTemplate =>
      refine (Handler.readsOnly_ofFailure _).bind fun input => ?_
      exact (Handler.readsOnly_ofFailure _).bind fun rendering => readsOnly_pure _
  | getTemplate segment =>
      refine (Handler.readsOnly_ofInput _).bind fun id => ?_
      exact ((Templates.readsOnly_get id).adapt _).bind fun template => readsOnly_pure _
  | renderTemplate segment =>
      refine (Handler.readsOnly_ofInput _).bind fun id => ?_
      exact ((Templates.readsOnly_render id _).adapt _).bind fun rendering => readsOnly_pure _
  | listVariables segment =>
      refine (Handler.readsOnly_ofInput _).bind fun id => ?_
      exact ((Templates.readsOnly_variableNames id).adapt _).bind fun names => readsOnly_pure _
  | register => exact h.elim
  | createTemplate => exact h.elim
  | updateTemplate segment => exact h.elim
  | deleteTemplate segment => exact h.elim

/-- The services that write are asked last, after the token and all that is sent. -/
theorem allOrNothing_handle : AllOrNothing (endpoint.handle access occasion request) := by
  cases endpoint with
  | register =>
      refine (Handler.readsOnly_ofInput _).bind_allOrNothing fun input => ?_
      exact ((Accounts.allOrNothing_register _ _ _ input).adapt _).bind_pure _
  | createTemplate =>
      refine (readsOnly_requireBearer _ _ _).bind_allOrNothing fun _ => ?_
      refine (Handler.readsOnly_ofInput _).bind_allOrNothing fun input => ?_
      exact ((Templates.allOrNothing_create input).adapt _).bind_pure _
  | updateTemplate segment =>
      refine (readsOnly_requireBearer _ _ _).bind_allOrNothing fun _ => ?_
      refine (Handler.readsOnly_ofInput _).bind_allOrNothing fun id => ?_
      refine (Handler.readsOnly_ofInput _).bind_allOrNothing fun input => ?_
      exact ((Templates.allOrNothing_update id input).adapt _).bind_pure _
  | deleteTemplate segment =>
      refine (readsOnly_requireBearer _ _ _).bind_allOrNothing fun _ => ?_
      refine (Handler.readsOnly_ofInput _).bind_allOrNothing fun id => ?_
      exact ((Templates.allOrNothing_delete id).adapt _).bind_pure _
  | health | login | listTemplates | previewTemplate | getTemplate | renderTemplate
  | listVariables =>
      apply ReadsOnly.allOrNothing
      apply IsReader.readsOnly_handle
      exact trivial

/-- An endpoint that comes to its end has a success to tell. -/
theorem yields_isSuccess_handle :
    Yields (endpoint.handle access occasion request) Response.IsSuccess := by
  have hok : ∀ value, (Response.json 200 value).IsSuccess := Response.isSuccess_json (by decide)
  have hcreated : ∀ value, (Response.json 201 value).IsSuccess :=
    Response.isSuccess_json (by decide)
  have hempty : (Response.empty 204).IsSuccess := by decide
  cases endpoint with
  | health => exact yields_bind fun _ => yields_pure (hok _)
  | register => exact yields_bind fun _ => yields_bind fun _ => yields_pure (hcreated _)
  | previewTemplate | getTemplate | renderTemplate | listVariables =>
      exact yields_bind fun _ => yields_bind fun _ => yields_pure (hok _)
  | login | listTemplates =>
      exact yields_bind fun _ => yields_bind fun _ => yields_bind fun _ => yields_pure (hok _)
  | createTemplate =>
      exact yields_bind fun _ => yields_bind fun _ => yields_bind fun _ => yields_pure (hcreated _)
  | updateTemplate segment =>
      refine yields_bind fun _ => yields_bind fun _ => yields_bind fun _ => ?_
      exact yields_bind fun _ => yields_pure (hok _)
  | deleteTemplate segment =>
      exact yields_bind fun _ => yields_bind fun _ => yields_bind fun _ => yields_pure hempty

end Endpoint

namespace Application

variable (app : Application) (occasion : Occasion) (memory : Memory)

theorem serve_of_endpoint? {request : Request} {endpoint : Endpoint}
    (h : request.endpoint? = some endpoint) :
    app.serve occasion (.memory memory) request =
      let handled :=
        attempt occasion.now (endpoint.handle app.access occasion request) memory
      (app.finish occasion request (Handler.told handled.1), .memory handled.2) := by
  rw [serve, Store.run, respond_of_endpoint? app occasion h, Program.run_bind,
    Handler.run_response]
  rfl

theorem snd_serve_of_endpoint?_eq_none {request : Request} (h : request.endpoint? = none) :
    (app.serve occasion (.memory memory) request).2 = .memory memory := by
  obtain ⟨response, hrespond⟩ := app.exists_respond_eq_done occasion h
  rw [serve, hrespond]
  rfl

theorem snd_serve_of_not_isSuccess {request : Request}
    (h : ¬(app.serve occasion (.memory memory) request).1.IsSuccess) :
    (app.serve occasion (.memory memory) request).2 = .memory memory := by
  cases hendpoint : request.endpoint? with
  | none => exact app.snd_serve_of_endpoint?_eq_none occasion memory hendpoint
  | some endpoint =>
      have hserve := app.serve_of_endpoint? occasion memory hendpoint
      rw [hserve] at h ⊢
      cases hhandled :
          (attempt occasion.now (endpoint.handle app.access occasion request) memory).1 with
      | ok response =>
          have hsuccess := endpoint.yields_isSuccess_handle app.access occasion request
            occasion.now memory response hhandled
          rw [Response.IsSuccess, status_finish, hhandled] at h
          exact absurd hsuccess h
      | error refusal =>
          have hsame := endpoint.allOrNothing_handle app.access occasion request
            occasion.now memory refusal hhandled
          exact congrArg Store.memory hsame

theorem snd_serve_of_isReader {request : Request}
    (h : ∀ endpoint ∈ request.endpoint?, endpoint.IsReader) :
    (app.serve occasion (.memory memory) request).2 = .memory memory := by
  cases hendpoint : request.endpoint? with
  | none => exact app.snd_serve_of_endpoint?_eq_none occasion memory hendpoint
  | some endpoint =>
      have hsame := (h endpoint hendpoint).readsOnly_handle app.access occasion request
        occasion.now memory
      rw [app.serve_of_endpoint? occasion memory hendpoint]
      exact congrArg Store.memory hsame

/-- **All or nothing.** A request whose response does not tell of a success leaves all templates and
accounts and the ids that were given out as they were, and so does every request that is there to
tell something, whatever it is told. -/
theorem serve_all_or_nothing (request : Request) :
    (¬(app.serve occasion (.memory memory) request).1.IsSuccess →
      (app.serve occasion (.memory memory) request).2 = .memory memory) ∧
    ((∀ endpoint ∈ request.endpoint?, endpoint.IsReader) →
      (app.serve occasion (.memory memory) request).2 = .memory memory) := by
  constructor
  · intro hfailed
    exact app.snd_serve_of_not_isSuccess occasion memory hfailed
  · intro hreader
    exact app.snd_serve_of_isReader occasion memory hreader

end Application

end FormLetter.Http
