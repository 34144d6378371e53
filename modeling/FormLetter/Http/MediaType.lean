import FormLetter.Text.Split

/-!
# Media types

The kind of a document is what stands before the parameters. The parameters do not count, but they
have to be well formed.
-/

namespace FormLetter.Http

/-- The kind of a document, in small letters and without its parameters. -/
structure MediaType where
  kind : String
  subkind : String
  /-- What follows the last plus sign. -/
  ending : Option String
  deriving DecidableEq

namespace MediaType

def isTokenChar (c : Char) : Bool :=
  c.isAlphanum || "!#$%&'*+-.^_`|~".toList.contains c

def isQuotable (c : Char) : Bool :=
  ' ' ≤ c && c.toNat != 0x7F

/-- Where in the parameters a text is that is read character by character. -/
inductive ParameterState where
  | start
  | name
  | equals
  | token
  | opened
  | quoted
  | closed
  deriving DecidableEq

namespace ParameterState

def step? : ParameterState → Char → Option ParameterState
  | .start, c => if c = ' ' then some .start else if isTokenChar c then some .name else none
  | .name, c => if c = '=' then some .equals else if isTokenChar c then some .name else none
  | .equals, c => if c = '"' then some .opened else if isTokenChar c then some .token else none
  | .token, c => if c = ';' then some .start else if isTokenChar c then some .token else none
  | .opened, c => if isQuotable c then some .quoted else none
  | .quoted, c => if c = '"' then some .closed else if isQuotable c then some .quoted else none
  | .closed, c => if c = ' ' then some .closed else if c = ';' then some .start else none

/-- Whether the parameters may end here. -/
def mayEnd : ParameterState → Bool
  | .start | .equals | .token | .closed => true
  | .name | .opened | .quoted => false

end ParameterState

/-- Whether a text is a list of parameters, as it follows a first semicolon. -/
def areParameters (text : List Char) : Bool :=
  (text.foldlM ParameterState.step? .start).any ParameterState.mayEnd

def ofNames (kind subkind : List Char) : MediaType :=
  match splitAtLast? '+' subkind with
  | some (c :: before, after) =>
    { kind := (String.ofList kind).toLower
      subkind := (String.ofList (c :: before)).toLower
      ending := some (String.ofList after).toLower }
  | _ =>
    { kind := (String.ofList kind).toLower
      subkind := (String.ofList subkind).toLower
      ending := none }

/-- Reads two names with a slash between them, and the parameters after a semicolon. -/
def ofText? (text : String) : Option MediaType :=
  match text.toList.takeWhile isTokenChar, text.toList.dropWhile isTokenChar with
  | kind, '/' :: rest =>
    if kind.isEmpty then none
    else
      match rest.takeWhile isTokenChar, rest.dropWhile isTokenChar with
      | subkind, [] => some (ofNames kind subkind)
      | subkind, ';' :: parameters =>
        if !subkind.isEmpty && areParameters parameters then some (ofNames kind subkind) else none
      | _, _ => none
  | _, _ => none

/-- Documents in JSON, and in formats that are written in JSON. -/
def isJson (type : MediaType) : Bool :=
  type.kind == "application" && (type.subkind == "json" || type.ending == some "json")

end MediaType

end FormLetter.Http
