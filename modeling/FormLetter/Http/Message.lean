import FormLetter.Failure

namespace FormLetter.Http

/-- The names of headers with their values, in the order in which they are sent. -/
abbrev Headers : Type :=
  List (String × String)

structure Request where
  method : String
  target : String
  headers : Headers
  body : List UInt8
  deriving DecidableEq

namespace Request

/-- The value of the first header whose name is the one given in small letters. -/
def header? (request : Request) (name : String) : Option String :=
  (request.headers.find? fun header => header.1.toLower == name).map Prod.snd

def isPrintable (c : Char) : Bool :=
  (' ' ≤ c && c ≤ '~') || c == '\t'

/-- The value of a header, provided that it is all printable. -/
def printableHeader? (request : Request) (name : String) : Option String :=
  (request.header? name).filter fun value => value.toList.all isPrintable

end Request

structure Response where
  status : Nat
  headers : Headers
  body : String
  deriving DecidableEq

namespace Response

def empty (status : Nat) : Response where
  status := status
  headers := []
  body := ""

def json (status : Nat) (value : Json.Value) : Response where
  status := status
  headers := [("content-type", "application/json")]
  body := value.text

def plain (status : Nat) (text : String) : Response where
  status := status
  headers := [("content-type", "text/plain; charset=utf-8")]
  body := text

def withHeaders (response : Response) (headers : Headers) : Response :=
  { response with headers := response.headers ++ headers }

def withoutBody (response : Response) : Response :=
  { response with body := "" }

end Response

end FormLetter.Http
