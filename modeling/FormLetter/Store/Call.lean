import FormLetter.Account
import FormLetter.Failure
import FormLetter.Template

/-!
# Store calls

Services are written against calls to a store, not against a store. The same service then runs over
tables in memory and over a store that refuses every call.
-/

namespace FormLetter

/-- What can be asked of the stores of templates and accounts. -/
inductive StoreCall where
  | createTemplate (new : NewTemplate)
  | findTemplate (id : Int)
  | updateTemplate (id : Int) (patch : TemplatePatch)
  | deleteTemplate (id : Int)
  | listTemplates (limit offset : Int64)
  | ping
  | createAccount (new : NewAccount)
  | findAccount (username : String)

/-- What a call is answered with: an update with the template that results, a deletion with whether
there was a template, a listing with the rows and the number of all. -/
def StoreCall.Reply : StoreCall → Type
  | .createTemplate _ => Template
  | .findTemplate _ => Option Template
  | .updateTemplate _ _ => Option Template
  | .deleteTemplate _ => Bool
  | .listTemplates _ _ => List Template × Int64
  | .ping => Unit
  | .createAccount _ => Account
  | .findAccount _ => Option Account

inductive StoreError where
  | database (error : DatabaseError)
  | usernameTaken (username : String)
  deriving DecidableEq

def StoreError.failure : StoreError → Failure
  | .database error => .database error
  | .usernameTaken username => .conflict ("Username '" ++ username ++ "' is already taken")

/-- A computation that makes calls to the stores and goes on with what they answer. -/
inductive Program (α : Type) where
  | done (result : α)
  | call (request : StoreCall) (next : Except StoreError request.Reply → Program α)

namespace Program

variable {α β : Type}

def bind : Program α → (α → Program β) → Program β
  | .done result, f => f result
  | .call request next, f => .call request fun reply => (next reply).bind f

instance : Monad Program where
  pure := .done
  bind := bind

theorem bind_done (program : Program α) : program.bind .done = program := by
  induction program with
  | done result => rfl
  | call request next ih => exact congrArg (Program.call request) (funext ih)

theorem bind_assoc {γ : Type} (program : Program α) (f : α → Program β) (g : β → Program γ) :
    (program.bind f).bind g = program.bind fun result => (f result).bind g := by
  induction program with
  | done result => rfl
  | call request next ih => exact congrArg (Program.call request) (funext ih)

instance : LawfulMonad Program :=
  .mk' Program bind_done (fun _ _ => rfl) bind_assoc

/-- Every call fails, the n-th one with the n-th error. -/
def runRefused (errors : Nat → DatabaseError) : Nat → Program α → α
  | _, .done result => result
  | n, .call _ next => (next (.error (.database (errors n)))).runRefused errors (n + 1)

end Program

/-- A computation with store calls that may end in a failure. -/
abbrev Service : Type → Type :=
  ExceptT Failure Program

namespace Service

def ask (request : StoreCall) : Service request.Reply :=
  ExceptT.mk <| .call request fun reply =>
    match reply with
    | .ok reply => .done (.ok reply)
    | .error error => .done (.error error.failure)

def ofExcept {α : Type} (result : Except Failure α) : Service α :=
  ExceptT.mk (.done result)

end Service

end FormLetter
