import FormLetter.Http.Percent
import FormLetter.Page
import FormLetter.Text.Integer
import FormLetter.Text.Split

namespace FormLetter.Http

/-- Why a query does not say which page is asked for. -/
inductive QueryFault where
  | repeated (name : String)
  | badInteger (name : String) (fault : IntegerFault)
  deriving DecidableEq

def QueryFault.message : QueryFault → String
  | .repeated name => "duplicate field `" ++ name ++ "`"
  | .badInteger name fault => name ++ ": " ++ fault.message

namespace Query

/-- The names and values in a query, decoded; a name without an equals sign has the empty text as
its value. -/
def pairs (query : List Char) : List (String × String) :=
  ((query.splitOn '&').filter fun pair => !pair.isEmpty).map fun pair =>
    let (name, value) := splitAtFirst '=' pair
    (Percent.formText name, Percent.formText value)

end Query

/-- What a query says about the page that is asked for. -/
structure PageQuery where
  page : Option Int64 := none
  limit : Option Int64 := none
  deriving DecidableEq

namespace PageQuery

def integer (name value : String) : Except QueryFault Int64 :=
  match (IntegerRange.signed 64).read value with
  | .ok value => .ok (Int64.ofInt value)
  | .error fault => .error (.badInteger name fault)

/-- That a name is repeated shows before its value is read; names that mean nothing are passed
over. -/
def add (query : PageQuery) : String × String → Except QueryFault PageQuery
  | ("page", value) =>
    if query.page.isSome then .error (.repeated "page")
    else (integer "page" value).map fun page => { query with page := some page }
  | ("limit", value) =>
    if query.limit.isSome then .error (.repeated "limit")
    else (integer "limit" value).map fun limit => { query with limit := some limit }
  | _ => .ok query

def read (query : List Char) : Except QueryFault PageQuery :=
  (Query.pairs query).foldlM add {}

def request (query : PageQuery) : PageRequest :=
  .of query.page query.limit

end PageQuery

end FormLetter.Http
