import FormLetter.Password
import FormLetter.Service.Request
import FormLetter.Store.Call
import FormLetter.Token

/-!
# Accounts

Names are unique, and a password opens the account that was registered with it.
-/

namespace FormLetter

/-- A token for a login, and how many seconds it is valid. -/
structure Grant where
  token : String
  lifetime : Int64
  deriving DecidableEq

def Grant.toJson (grant : Grant) : Json.Value :=
  .object
    [("access_token", .string grant.token),
     ("token_type", .string "Bearer"),
     ("expires_in", .number (.integer grant.lifetime.toInt))]

namespace Accounts

def checkUsername (username : String) : Except Failure Unit :=
  if 3 ≤ username.length ∧ username.length ≤ 64 then .ok ()
  else .error (.invalidField "username" "Username must be 3 to 64 characters")

/-- One failure for all logins that are turned down, so that no one learns which accounts there
are. -/
def loginRefused : Failure :=
  .unauthorized "Invalid username or password"

/-- The account to store for a registration, with the password hashed under the salt. -/
def accept (derive : Password.Derivation) (minLength : Nat) (salt : List UInt8)
    (request : Credentials) : Except Failure NewAccount := do
  checkUsername request.username
  Password.checkStrength minLength request.password
  pure
    { username := request.username
      passwordHash := Password.hash derive salt request.password }

def register (derive : Password.Derivation) (minLength : Nat) (salt : List UInt8)
    (request : Credentials) : Service Profile := do
  let new ← Service.ofExcept (accept derive minLength salt request)
  let account ← Service.ask (.createAccount new)
  pure account.profile

/-- The account that the password opens. -/
def open? (derive : Password.Derivation) (password : String) :
    Option Account → Except Failure Account
  | none => .error loginRefused
  | some account =>
    match Password.verify? derive password account.passwordHash with
    | none => .error (.internal "The stored password hash is corrupt")
    | some false => .error loginRefused
    | some true => .ok account

/-- A token for an account, unless its times have no room. -/
def grant? (settings : TokenSettings) (now : Int64) (jti : String) (account : Account) :
    Option Grant := do
  let token ← Token.issue? settings now jti (Int64.ofInt account.id) account.username
  let lifetime ← settings.lifetime?
  pure { token := token, lifetime := lifetime }

/-- Gives out a token for an account against its password. -/
def login (derive : Password.Derivation) (settings : TokenSettings) (now : Int64) (jti : String)
    (request : Credentials) : Service (Option Grant) := do
  let account ← Service.ask (.findAccount request.username)
  let account ← Service.ofExcept (open? derive request.password account)
  pure (grant? settings now jti account)

end Accounts

end FormLetter
