import FormLetter.Placeholder.Check
import FormLetter.Json.Value

/-!
# Failures

All that can go wrong while a request is answered, and what of it is told to the client.
-/

namespace FormLetter

/-- What a database reports in place of an answer: that it turned a statement down, with the code
for the reason, the constraint in the way and what it has to say about it, or anything else that
went wrong on the way to it, in words. -/
inductive DatabaseError where
  | rejected (code constraint : Option String) (text : String)
  | rowNotFound
  | poolTimedOut
  | poolClosed
  | other (text : String)
  deriving DecidableEq

namespace DatabaseError

def uniqueViolation : String :=
  "23505"

def isTellable (constraint : String) : Bool :=
  "uq_".toList.isPrefixOf constraint.toList

/-- The name of the unique constraint that a write ran into, where it is one of those whose names
may be told. -/
def duplicate? : DatabaseError → Option String
  | .rejected (some code) (some constraint) _ =>
    if code == uniqueViolation && isTellable constraint then some constraint else none
  | _ => none

end DatabaseError

/-- Why a request cannot be met. -/
inductive Failure where
  | unfit (fault : TextFault)
  | notFound (entity : String) (id : Int)
  | invalid (message : String)
  | invalidField (field message : String)
  | invalidCategory (value allowed : String)
  | missingVariables
  | unauthorized (message : String)
  | conflict (message : String)
  | badRequest (message : String)
  | database (error : DatabaseError)
  | internal (reason : String)
  deriving DecidableEq

namespace Failure

/-- The failure in words; what went wrong inside is not put into words. -/
def description? : Failure → Option String
  | .unfit fault => some fault.message
  | .notFound entity id => some ("Entity not found: " ++ entity ++ " with id " ++ id.repr)
  | .invalid message => some ("Validation failed: " ++ message)
  | .invalidField field message => some ("Validation failed: " ++ field ++ ": " ++ message)
  | .invalidCategory value allowed =>
    some ("Invalid category '" ++ value ++ "'. Must be one of: " ++ allowed)
  | .missingVariables => some "Render request must include a `variables` object"
  | .unauthorized message => some ("Unauthorized: " ++ message)
  | .conflict message => some ("Conflict: " ++ message)
  | .badRequest message => some ("Bad request: " ++ message)
  | .database _ => none
  | .internal _ => none

/-- What a client is told: an HTTP status, a code and a text. -/
structure Answer where
  status : Nat
  code : String
  text : String
  deriving DecidableEq

def Answer.internal : Answer :=
  ⟨500, "INTERNAL_ERROR", "An internal error occurred"⟩

def Answer.toJson (answer : Answer) : Json.Value :=
  .object [("code", .string answer.code), ("error", .string answer.text)]

def answer : Failure → Answer
  | .unfit fault =>
    let code :=
      match fault with
      | .empty => "EMPTY_CONTENT"
      | .nameless _ => "MALFORMED_PLACEHOLDER"
      | .badName _ => "INVALID_VARIABLE_NAME"
    ⟨400, code, fault.message⟩
  | .notFound entity id =>
    ⟨404, "NOT_FOUND", entity ++ " with id " ++ id.repr ++ " not found"⟩
  | .invalid message => ⟨400, "VALIDATION_ERROR", message⟩
  | .invalidField field message =>
    ⟨400, "VALIDATION_ERROR", "Validation failed: " ++ field ++ ": " ++ message⟩
  | .invalidCategory value allowed =>
    ⟨400, "INVALID_CATEGORY", "Invalid category '" ++ value ++ "'. Must be one of: " ++ allowed⟩
  | .missingVariables =>
    ⟨400, "MISSING_VARIABLES", "Render request must include a `variables` object"⟩
  | .unauthorized message => ⟨401, "UNAUTHORIZED", message⟩
  | .conflict message => ⟨409, "CONFLICT", message⟩
  | .badRequest message => ⟨400, "BAD_REQUEST", message⟩
  | .database error =>
    match error.duplicate? with
    | some constraint =>
      ⟨409, "CONFLICT", "Duplicate value violates unique constraint: " ++ constraint⟩
    | none => .internal
  | .internal _ => .internal

end Failure

end FormLetter
