import FormLetter.Http.Endpoint
import FormLetter.Http.Origins
import FormLetter.Store.Memory

/-!
# The application

A request is answered by the resource at its path. Around every response stand the identifier of the
request and what browsers are told about origins.
-/

namespace FormLetter.Http

structure Application where
  access : AccessPolicy
  origins : Origins

namespace Application

/-- There is no application for settings that let every origin in. -/
def ofSettings? (derive : Password.Derivation) (settings : Settings) : Option Application :=
  (Origins.ofList? settings.origins).map fun origins =>
    { access :=
        { token := settings.token
          minPasswordLength := settings.minPasswordLength
          derive := derive }
      origins := origins }

def requestIdHeader : String :=
  "x-request-id"

/-- The identifier that the client gave to its request, or else a new one. -/
def requestId (occasion : Occasion) (request : Request) : String :=
  (request.header? requestIdHeader).getD occasion.requestId.text

/-- Finds what is to be done for a request, and does it. -/
def route (app : Application) (occasion : Occasion) (request : Request) : Program Response :=
  match request.resource? with
  | none => pure (.empty 404)
  | some resource =>
    match resource.endpoint? request.method with
    | none => pure (.empty 405)
    | some endpoint => (endpoint.handle app.access occasion request).response

/-- Names the methods of the resource where a request uses another one. -/
def allowedMethods (request : Request) : Headers :=
  match request.resource? with
  | none => []
  | some resource =>
    if (resource.endpoint? request.method).isSome then []
    else [("allow", String.intercalate "," resource.allowedMethods)]

/-- Tells the length of the body, except where the request is for an address that leads nowhere. -/
def bodyLength (request : Request) (response : Response) : Headers :=
  if request.address?.isSome && request.resource?.isNone then []
  else [("content-length", response.body.utf8ByteSize.repr)]

/-- Adds what responses have in the end. The response to a HEAD request tells the length of a body
that is left out. -/
def complete (request : Request) (response : Response) : Response :=
  let response := response.withHeaders (allowedMethods request ++ bodyLength request response)
  if request.method = "HEAD" then response.withoutBody else response

/-- Answers a request. What a browser asks beforehand never reaches a resource. -/
def respond (app : Application) (occasion : Occasion) (request : Request) : Program Response :=
  if request.method = "OPTIONS" then pure (complete request (app.origins.preflight request))
  else do
    let response ← app.route occasion request
    pure (complete request (response.withHeaders
      ((requestIdHeader, requestId occasion request) :: app.origins.headers request)))

/-- Answers a request out of the stores. -/
def serve (app : Application) (occasion : Occasion) (store : Store) (request : Request) :
    Response × Store :=
  store.run occasion.now (app.respond occasion request)

end Application

end FormLetter.Http
