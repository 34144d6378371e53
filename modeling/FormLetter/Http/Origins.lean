import FormLetter.Http.Message

namespace FormLetter.Http

/-- The origins from which browsers may use the service. -/
structure Origins where
  names : List String
  no_wildcard : "*" ∉ names

namespace Origins

/-- Whether a text can stand as the value of a header. -/
def isHeaderValue (text : String) : Bool :=
  text.toList.all fun c => (' ' ≤ c && c.toNat != 0x7F) || c == '\t'

/-- Leaves out what can never be the value of an origin header. A list refuses the wildcard among
its names: for every origin there is a setting of its own. -/
def ofList? (origins : List String) : Option Origins :=
  let names := origins.filter isHeaderValue
  if h : "*" ∈ names then none else some ⟨names, h⟩

/-- What every response tells the browser. -/
def headers (origins : Origins) (request : Request) : Headers :=
  let origin :=
    match request.header? "origin" with
    | some origin =>
      if origins.names.contains origin then [("access-control-allow-origin", origin)] else []
    | none => []
  origin ++
    [("access-control-allow-credentials", "true"),
     ("vary", "origin, access-control-request-method, access-control-request-headers")]

/-- What a browser is told that asks before it sends its request. -/
def preflight (origins : Origins) (request : Request) : Response :=
  (Response.empty 200).withHeaders <|
    origins.headers request ++
      [("access-control-allow-methods", "GET,POST,PATCH,DELETE"),
       ("access-control-allow-headers", "content-type,authorization"),
       ("access-control-max-age", "3600")]

end Origins

end FormLetter.Http
