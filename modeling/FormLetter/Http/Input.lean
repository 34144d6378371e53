import FormLetter.Http.MediaType
import FormLetter.Http.Message
import FormLetter.Http.Query
import FormLetter.Http.Resource
import FormLetter.Json.Record

namespace FormLetter.Http

/-- Why what is sent with a request cannot be read. -/
inductive InputFault where
  | idNotText
  | idNotInteger (id : String)
  | query (fault : QueryFault)
  | notJson
  | tooLong
  | malformedBody
  | unfitBody (place : Json.Place) (what : Json.Mismatch)
  deriving DecidableEq

namespace InputFault

def status : InputFault → Nat
  | .idNotText | .idNotInteger _ | .query _ | .malformedBody => 400
  | .notJson => 415
  | .tooLong => 413
  | .unfitBody _ _ => 422

def message : InputFault → String
  | .idNotText => "Invalid URL: Invalid UTF-8 in `id`"
  | .idNotInteger id => "Invalid URL: Cannot parse `" ++ id ++ "` to a `i64`"
  | .query fault => "Failed to deserialize query string: " ++ fault.message
  | .notJson => "Expected request with `Content-Type: application/json`"
  | .tooLong => "Failed to buffer the request body: length limit exceeded"
  | .malformedBody => "Failed to parse the request body as JSON"
  | .unfitBody place what =>
    "Failed to deserialize the JSON body into the target type: " ++
      (if place.isEmpty then "" else place.text ++ ": ") ++ what.message

def ofReadError : Json.ReadError → InputFault
  | .malformed _ => .malformedBody
  | .mismatch place what => .unfitBody place what

def response (fault : InputFault) : Response :=
  .plain fault.status fault.message

end InputFault

/-- The identifier that a segment of a path spells. -/
def readId (segment : String) : Except InputFault Int :=
  match Percent.text? segment.toList with
  | none => .error .idNotText
  | some text => ((IntegerRange.signed 64).read text).mapError fun _ => .idNotInteger text

namespace Request

def address? (request : Request) : Option Address :=
  Address.ofText? request.target

def resource? (request : Request) : Option Resource :=
  request.address?.bind fun address => Resource.ofPath? address.path

/-- The query of the address that the request is for, which may be empty. -/
def query (request : Request) : List Char :=
  request.address?.elim [] Address.query

def readQuery (request : Request) : Except InputFault PageRequest :=
  match PageQuery.read request.query with
  | .ok query => .ok query.request
  | .error fault => .error (.query fault)

/-- Whether the request says that its body is JSON. -/
def announcesJson (request : Request) : Bool :=
  ((request.printableHeader? "content-type").bind MediaType.ofText?).any MediaType.isJson

/-- How many bytes a body may have. -/
def bodyLimit : Nat :=
  2 * 1024 * 1024

/-- The media type is looked at first, then the length, and then what the body says. -/
def readBody {σ α : Type} (record : Json.Record σ α) (request : Request) : Except InputFault α :=
  if !request.announcesJson then .error .notJson
  else if bodyLimit < request.body.length then .error .tooLong
  else ((Json.Document.ofBytes request.body).read record.read).mapError InputFault.ofReadError

end Request

end FormLetter.Http
