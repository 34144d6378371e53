import FormLetter.Argon2.Cost
import FormLetter.Failure
import FormLetter.Password.Phc
import FormLetter.Text.Utf8

/-!
# Passwords

A password is kept only as the digest of a memory-hard function, together with all that is needed to
work it out again.
-/

namespace FormLetter.Password

/-- A memory-hard function: the digest of the asked length of a password under a salt. -/
abbrev Derivation : Type :=
  Argon2.Cost → (length : Nat) → (password salt : List UInt8) → List UInt8

/-- What new passwords are hashed with. -/
def defaultCost : Argon2.Cost :=
  { variant := .id, version := 19, memory := 19456, passes := 2, lanes := 1 }

def writtenSettings (cost : Argon2.Cost) : List (String × String) :=
  [("m", cost.memory.repr), ("t", cost.passes.repr), ("p", cost.lanes.repr)]

/-- The bytes that a setting spells, of which there can be only so many. -/
def settingBytes? (limit : Nat) (value : String) : Option (List UInt8) :=
  (Base64.decode? .standard value.toList).filter fun bytes => bytes.length ≤ limit

def readSetting? (cost : Argon2.Cost) : String × String → Option Argon2.Cost
  | ("m", value) => (Phc.decimal? value.toList).map fun memory => { cost with memory := memory }
  | ("t", value) => (Phc.decimal? value.toList).map fun passes => { cost with passes := passes }
  | ("p", value) => (Phc.decimal? value.toList).map fun lanes => { cost with lanes := lanes }
  | ("keyid", value) => (settingBytes? 8 value).map fun keyId => { cost with keyId := keyId }
  | ("data", value) => (settingBytes? 32 value).map fun extra => { cost with extra := extra }
  | _ => none

/-- The cost that a written hash names; what it leaves out is as for new passwords. -/
def readCost? (phc : Phc) : Option Argon2.Cost := do
  let variant ← Argon2.Variant.ofName? phc.function
  let start : Argon2.Cost :=
    { defaultCost with variant := variant, version := phc.version.getD defaultCost.version }
  let cost ← phc.settings.foldlM readSetting? start
  if cost.isFeasible then some cost else none

def digestLength : Nat :=
  32

/-- The written hash of a password under a salt. -/
def hash (derive : Derivation) (salt : List UInt8) (password : String) : String :=
  let cost := defaultCost
  Phc.text
    { function := cost.variant.name
      version := some cost.version
      settings := writtenSettings cost
      salt := some (String.ofList (Base64.encode .standard salt))
      digest := some (derive cost digestLength (Utf8.encode password) salt) }

/-- The salt's bytes, of which there have to be at least eight. -/
def saltBytes? (salt : String) : Option (List UInt8) :=
  match Base64.decode? .standard salt.toList with
  | some bytes => if 8 ≤ bytes.length then some bytes else none
  | none => none

/-- Whether a password belongs to a written hash; there is no telling from a hash that is
corrupt. -/
def verify? (derive : Derivation) (password hash : String) : Option Bool :=
  match Phc.read? hash with
  | none => none
  | some phc =>
    match phc.salt, phc.digest with
    | some salt, some digest => do
      let cost ← readCost? phc
      let salt ← saltBytes? salt
      some (derive cost digest.length (Utf8.encode password) salt == digest)
    | _, _ => some false

/-- A password has to have at least so many characters. -/
def checkStrength (minLength : Nat) (password : String) : Except Failure Unit :=
  if password.length < minLength then
    .error (.invalid ("Password must be at least " ++ minLength.repr ++ " characters long"))
  else .ok ()

end FormLetter.Password
