import FormLetter.Text.Blank
import FormLetter.Text.Integer
import FormLetter.Word

/-!
# Settings

The settings are read from variables one after the other, so the first variable that does not hold
what it should decides the fault.
-/

namespace FormLetter

/-- The variables that are set, each with its text. -/
abbrev Environment : Type :=
  String → Option String

/-- Where templates and accounts are kept. -/
inductive Backend where
  | postgres (databaseUrl : String) (maxConnections : Nat)
  | memory
  deriving DecidableEq

structure TokenSettings where
  secret : String
  expiryMinutes : Int64
  deriving DecidableEq

/-- How long a token stays valid, in seconds. There may be too many of them to tell. -/
def TokenSettings.lifetime? (settings : TokenSettings) : Option Int64 :=
  Word.mul? settings.expiryMinutes 60

structure Settings where
  host : String
  portNumber : Nat
  origins : List String
  requestTimeout : Nat
  backend : Backend
  token : TokenSettings
  minPasswordLength : Nat
  deriving DecidableEq

inductive SettingsError where
  | missing (name : String)
  | invalid (name value reason : String)
  deriving DecidableEq

def SettingsError.message : SettingsError → String
  | .missing name => name ++ " must be set in the environment"
  | .invalid name value reason => name ++ " has an invalid value '" ++ value ++ "': " ++ reason

namespace Environment

/-- The integer that the variable spells, blanks around it aside, or the default where it is not
set. -/
def integer (environment : Environment) (name : String) (range : IntegerRange) (default : Int) :
    Except SettingsError Int :=
  match environment name with
  | none => .ok default
  | some text =>
    match range.read (trim text) with
    | .ok value => .ok value
    | .error fault => .error (.invalid name text fault.message)

def natural (environment : Environment) (name : String) (bits default : Nat) :
    Except SettingsError Nat :=
  (environment.integer name (.unsigned bits) default).map Int.toNat

/-- The parts between the commas that hold more than blanks. -/
def origins (environment : Environment) : List String :=
  let text := (environment "CORS_ORIGINS").getD "http://localhost:5173"
  ((text.toList.splitOn ',').map fun part => String.ofList (trimChars part)).filter (· != "")

def backend (environment : Environment) : Except SettingsError Backend := do
  let name := ((environment "STORE_BACKEND").getD "postgres").map Char.toLower
  if name == "postgres" then
    match environment "DATABASE_URL" with
    | none => .error (.missing "DATABASE_URL")
    | some url =>
      let maxConnections ← environment.natural "DB_MAX_CONNECTIONS" 32 20
      pure (.postgres url maxConnections)
  else if name == "memory" then pure .memory
  else .error (.invalid "STORE_BACKEND" name "expected `postgres` or `memory`")

def token (environment : Environment) : Except SettingsError TokenSettings := do
  let secret := (environment "JWT_SECRET").getD ""
  if secret == "" then .error (.missing "JWT_SECRET")
  else
    let minutes ← environment.integer "JWT_EXPIRY_MINS" (.signed 64) 60
    pure { secret := secret, expiryMinutes := Int64.ofInt minutes }

end Environment

/-- Reads the settings; the first variable that is unacceptable decides. -/
def Settings.ofEnvironment (environment : Environment) : Except SettingsError Settings := do
  let portNumber ← environment.natural "PORT" 16 3000
  let requestTimeout ← environment.natural "REQUEST_TIMEOUT_SECS" 64 30
  let minPasswordLength ← environment.natural "MIN_PASSWORD_LENGTH" 64 8
  let backend ← environment.backend
  let token ← environment.token
  pure
    { host := (environment "HOST").getD "0.0.0.0"
      portNumber := portNumber
      origins := environment.origins
      requestTimeout := requestTimeout
      backend := backend
      token := token
      minPasswordLength := minPasswordLength }

end FormLetter
