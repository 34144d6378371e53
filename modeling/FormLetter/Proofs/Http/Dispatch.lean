import FormLetter.Http.Application

/-!
# Where a request leads

A request leads to an endpoint or to none. Only the endpoint makes calls to the stores; what the
application puts around its response is reckoned from the request and the occasion.
-/

namespace FormLetter.Http

variable {request : Request} {endpoint : Endpoint}

/-- What is to be done for a request, where its path and its method lead to something. -/
def Request.endpoint? (request : Request) : Option Endpoint :=
  request.resource?.bind fun resource => resource.endpoint? request.method

theorem Resource.endpoint?_options (resource : Resource) :
    resource.endpoint? "OPTIONS" = none := by
  cases resource <;> rfl

theorem Request.method_ne_options (h : request.endpoint? = some endpoint) :
    request.method ≠ "OPTIONS" := by
  intro hmethod
  obtain ⟨resource, -, hendpoint⟩ := Option.bind_eq_some_iff.mp h
  rw [hmethod, Resource.endpoint?_options] at hendpoint
  cases hendpoint

namespace Application

variable (app : Application) (occasion : Occasion)

/-- The response that is sent in the end for the response of an endpoint. -/
def finish (request : Request) (response : Response) : Response :=
  complete request (response.withHeaders
    ((requestIdHeader, requestId occasion request) :: app.origins.headers request))

@[simp]
theorem status_complete (request : Request) (response : Response) :
    (complete request response).status = response.status := by
  rw [complete]
  split <;> rfl

@[simp]
theorem status_finish (request : Request) (response : Response) :
    (app.finish occasion request response).status = response.status :=
  status_complete request _

theorem route_of_endpoint? (h : request.endpoint? = some endpoint) :
    app.route occasion request = (endpoint.handle app.access occasion request).response := by
  obtain ⟨resource, hresource, hendpoint⟩ := Option.bind_eq_some_iff.mp h
  rw [route, hresource]
  simp only [hendpoint]

theorem respond_of_endpoint? (h : request.endpoint? = some endpoint) :
    app.respond occasion request =
      (endpoint.handle app.access occasion request).response.bind fun response =>
        .done (app.finish occasion request response) := by
  rw [respond, if_neg (Request.method_ne_options h), route_of_endpoint? app occasion h]
  rfl

/-- A request that leads nowhere is answered without a call to the stores. -/
theorem exists_respond_eq_done (h : request.endpoint? = none) :
    ∃ response, app.respond occasion request = .done response := by
  rw [respond]
  split
  next => exact ⟨_, rfl⟩
  next =>
    rw [route]
    cases hresource : request.resource? with
    | none => exact ⟨_, rfl⟩
    | some resource =>
        have hendpoint : resource.endpoint? request.method = none := by
          rwa [Request.endpoint?, hresource] at h
        simp only [hendpoint]
        exact ⟨_, rfl⟩

end Application

end FormLetter.Http
