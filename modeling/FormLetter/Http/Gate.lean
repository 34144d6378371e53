import FormLetter.Http.Message
import FormLetter.Text.Blank
import FormLetter.Token

namespace FormLetter.Http

/-- Who makes a request. -/
structure Bearer where
  id : Int64
  username : String
  deriving DecidableEq

namespace Bearer

def scheme : List Char :=
  "Bearer ".toList

/-- What follows the scheme, without the blanks around it. -/
def token? (header : String) : Option String :=
  if scheme.isPrefixOf header.toList then
    some (String.ofList (trimChars (header.toList.drop scheme.length)))
  else none

/-- The bearer of the token in an authorization header. -/
def ofHeader (secret : String) (now : Int64) (header : Option String) : Except Failure Bearer :=
  match header with
  | none => .error (.unauthorized "Missing Authorization header")
  | some header =>
    match token? header with
    | none =>
      .error (.unauthorized "Invalid Authorization format. Expected: Bearer <token>")
    | some token =>
      match Token.validate secret now token with
      | .ok claims => .ok { id := claims.sub, username := claims.username }
      | .error _ => .error (.unauthorized "Invalid or expired token")

end Bearer

/-- A header that is not all printable counts as missing. -/
def Request.bearer (request : Request) (secret : String) (now : Int64) : Except Failure Bearer :=
  Bearer.ofHeader secret now (request.printableHeader? "authorization")

end FormLetter.Http
