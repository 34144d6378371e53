import FormLetter.Text.Split

namespace FormLetter.Http

/-- What a path leads to; identifiers are as they stand in the path. -/
inductive Resource where
  | health
  | registration
  | login
  | templates
  | preview
  | template (id : String)
  | rendering (id : String)
  | variableNames (id : String)
  deriving DecidableEq

/-- What is done for a request. -/
inductive Endpoint where
  | health
  | register
  | login
  | listTemplates
  | createTemplate
  | previewTemplate
  | getTemplate (id : String)
  | updateTemplate (id : String)
  | deleteTemplate (id : String)
  | renderTemplate (id : String)
  | listVariables (id : String)
  deriving DecidableEq

/-- An address split into its path and its query; a fragment belongs to neither. -/
structure Address where
  path : List Char
  query : List Char

namespace Address

def isSchemeChar (c : Char) : Bool :=
  c.isAlphanum || c == '+' || c == '-' || c == '.' || c == '~'

def endsAuthority (c : Char) : Bool :=
  c == '/' || c == '?' || c == '#'

/-- What follows the scheme and the authority of an absolute address. -/
def afterAuthority? (text : List Char) : Option (List Char) :=
  match text.dropWhile isSchemeChar with
  | ':' :: '/' :: '/' :: rest => some (rest.dropWhile fun c => !endsAuthority c)
  | _ => none

/-- The part of a target that leads to a resource, if the target is a path or an absolute address.
-/
def local? (text : List Char) : Option (List Char) :=
  if text.head? = some '/' then some text else afterAuthority? text

/-- An absolute address that names no path leads to the root. -/
def rooted (path : List Char) : List Char :=
  if path.isEmpty then ['/'] else path

/-- The address that a target spells; there are targets that are none. -/
def ofText? (text : String) : Option Address :=
  (local? text.toList).map fun text =>
    let (path, query) := splitAtFirst '?' (splitAtFirst '#' text).1
    { path := rooted path, query := query }

end Address

namespace Resource

def ofSegments? : List String → Option Resource
  | ["", "health"] => some .health
  | ["", "api", "v1", "auth", "register"] => some .registration
  | ["", "api", "v1", "auth", "login"] => some .login
  | ["", "api", "v1", "templates"] => some .templates
  | ["", "api", "v1", "templates", "preview"] => some .preview
  | ["", "api", "v1", "templates", id] => if id = "" then none else some (.template id)
  | ["", "api", "v1", "templates", id, "render"] => some (.rendering id)
  | ["", "api", "v1", "templates", id, "variables"] => some (.variableNames id)
  | _ => none

/-- Paths are compared as they are written, without decoding. -/
def ofPath? (path : List Char) : Option Resource :=
  ofSegments? ((path.splitOn '/').map String.ofList)

/-- The methods that a resource has, and what they do. -/
def endpoints : Resource → List (String × Endpoint)
  | .health => [("GET", .health)]
  | .registration => [("POST", .register)]
  | .login => [("POST", .login)]
  | .templates => [("GET", .listTemplates), ("POST", .createTemplate)]
  | .preview => [("POST", .previewTemplate)]
  | .template id =>
    [("GET", .getTemplate id), ("PATCH", .updateTemplate id), ("DELETE", .deleteTemplate id)]
  | .rendering id => [("POST", .renderTemplate id)]
  | .variableNames id => [("GET", .listVariables id)]

/-- A HEAD request is answered by what answers a GET request. -/
def endpoint? (resource : Resource) (method : String) : Option Endpoint :=
  resource.endpoints.lookup (if method = "HEAD" then "GET" else method)

def allowedMethods (resource : Resource) : List String :=
  resource.endpoints.flatMap fun endpoint =>
    if endpoint.1 = "GET" then ["GET", "HEAD"] else [endpoint.1]

end Resource

end FormLetter.Http
