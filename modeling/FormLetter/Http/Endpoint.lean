import FormLetter.Http.Gate
import FormLetter.Http.Handler
import FormLetter.Service.Accounts
import FormLetter.Service.Templates
import FormLetter.Uuid

/-!
# Endpoints

What each endpoint does with a request, up to the response. Only the endpoints that change templates
ask who makes the request, and they ask first.
-/

namespace FormLetter.Http

/-- The time at which a request is answered, and the random values that are at hand for it. -/
structure Occasion where
  now : Timestamp
  salt : List UInt8
  tokenId : Uuid
  requestId : Uuid

def Occasion.seconds (occasion : Occasion) : Int64 :=
  Int64.ofInt occasion.now.seconds

/-- How tokens are issued and checked, and how passwords are hashed and checked. -/
structure AccessPolicy where
  token : TokenSettings
  minPasswordLength : Nat
  derive : Password.Derivation

def withData (value : Json.Value) : Json.Value :=
  .object [("data", value)]

def version : String :=
  "0.1.0"

def healthJson (healthy : Bool) : Json.Value :=
  .object
    [("status", .string (if healthy then "ok" else "degraded")),
     ("version", .string version),
     ("store_healthy", .bool healthy)]

def requireBearer (access : AccessPolicy) (occasion : Occasion) (request : Request) :
    Handler Bearer :=
  .ofFailure (request.bearer access.token.secret occasion.seconds)

/-- A body that cannot be read counts as one without variables. -/
def readRendering (request : Request) : RenderRequest :=
  match request.readBody RenderRequest.record with
  | .ok input => input
  | .error _ => {}

/-- A body that cannot be read is told as a failure of the service. -/
def readPreview (request : Request) : Except Failure PreviewRequest :=
  (request.readBody PreviewRequest.record).mapError fun fault => .badRequest fault.message

/-- Looks at the token first, then at the path, then at the query or the body. -/
def Endpoint.handle (access : AccessPolicy) (occasion : Occasion) (request : Request) :
    Endpoint → Handler Response
  | .health => do
    let healthy ← ExceptT.lift Templates.healthy
    pure (.json 200 (healthJson healthy))
  | .register => do
    let input ← Handler.ofInput (request.readBody Credentials.registration)
    let profile ← Handler.ofService
      (Accounts.register access.derive access.minPasswordLength occasion.salt input)
    pure (.json 201 (withData profile.toJson))
  | .login => do
    let input ← Handler.ofInput (request.readBody Credentials.login)
    let grant ← Handler.ofService
      (Accounts.login access.derive access.token occasion.seconds occasion.tokenId.text input)
    let grant ← Handler.ofOption grant
    pure (.json 200 grant.toJson)
  | .listTemplates => do
    let input ← Handler.ofInput request.readQuery
    let page ← Handler.ofService (Templates.list input)
    let page ← Handler.ofOption page
    pure (.json 200 page.toJson)
  | .createTemplate => do
    let _ ← requireBearer access occasion request
    let input ← Handler.ofInput (request.readBody CreateRequest.record)
    let template ← Handler.ofService (Templates.create input)
    pure (.json 201 (withData template.toJson))
  | .previewTemplate => do
    let input ← Handler.ofFailure (readPreview request)
    let rendering ← Handler.ofFailure (Templates.preview input)
    pure (.json 200 rendering.toJson)
  | .getTemplate segment => do
    let id ← Handler.ofInput (readId segment)
    let template ← Handler.ofService (Templates.get id)
    pure (.json 200 (withData template.toJson))
  | .updateTemplate segment => do
    let _ ← requireBearer access occasion request
    let id ← Handler.ofInput (readId segment)
    let input ← Handler.ofInput (request.readBody UpdateRequest.record)
    let template ← Handler.ofService (Templates.update id input)
    pure (.json 200 (withData template.toJson))
  | .deleteTemplate segment => do
    let _ ← requireBearer access occasion request
    let id ← Handler.ofInput (readId segment)
    Handler.ofService (Templates.delete id)
    pure (.empty 204)
  | .renderTemplate segment => do
    let id ← Handler.ofInput (readId segment)
    let rendering ← Handler.ofService (Templates.render id (readRendering request))
    pure (.json 200 rendering.toJson)
  | .listVariables segment => do
    let id ← Handler.ofInput (readId segment)
    let names ← Handler.ofService (Templates.variableNames id)
    pure (.json 200 (withData (.array (names.map .string))))

end FormLetter.Http
