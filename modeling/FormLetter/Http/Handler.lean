import FormLetter.Http.Input
import FormLetter.Store.Call

namespace FormLetter.Http

/-- Why a request is turned down. -/
inductive Refusal where
  | unreadable (fault : InputFault)
  | failed (failure : Failure)
  /-- A number came up that has no room. -/
  | overflow
  deriving DecidableEq

def Refusal.response : Refusal → Response
  | .unreadable fault => fault.response
  | .failed failure => .json failure.answer.status failure.answer.toJson
  | .overflow => .plain 500 "Service panicked"

/-- A computation with store calls that may end in a refusal. -/
abbrev Handler : Type → Type :=
  ExceptT Refusal Program

namespace Handler

def ofInput {α : Type} (input : Except InputFault α) : Handler α :=
  ExceptT.mk (.done (input.mapError .unreadable))

def ofFailure {α : Type} (result : Except Failure α) : Handler α :=
  ExceptT.mk (.done (result.mapError .failed))

def ofService {α : Type} (service : Service α) : Handler α :=
  ExceptT.adapt .failed service

def ofOption {α : Type} (result : Option α) : Handler α :=
  ExceptT.mk (.done (result.elim (.error .overflow) .ok))

/-- The response to a request in the end, whether it is met or turned down. -/
def response (handler : Handler Response) : Program Response :=
  handler.run.bind fun result =>
    match result with
    | .ok response => .done response
    | .error refusal => .done refusal.response

end Handler

end FormLetter.Http
