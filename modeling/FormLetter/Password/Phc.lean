import FormLetter.Base64

/-!
# Written hashes

A written hash is a row of parts that dollar signs begin. All parts after the name of the function
may be missing.
-/

namespace FormLetter

/-- A password hash as it is written down: the function with its settings, and the salt and the
digest if they are given. -/
structure Phc where
  function : String
  version : Option Nat
  settings : List (String × String)
  salt : Option String
  digest : Option (List UInt8)
  deriving DecidableEq

namespace Phc

def isNameChar (c : Char) : Bool :=
  c.isLower || c.isDigit || c == '-'

def isName (text : List Char) : Bool :=
  !text.isEmpty && text.length ≤ 32 && text.all isNameChar

def isValueChar (c : Char) : Bool :=
  c.isAlphanum || c == '/' || c == '+' || c == '.' || c == '-'

def isValue (text : List Char) : Bool :=
  text.length ≤ 64 && text.all isValueChar

/-- Digits without a leading zero that spell a number of 32 bits. -/
def decimal? (text : List Char) : Option Nat :=
  if text.isEmpty || !text.all Char.isDigit || (text.head? == some '0' && text.length != 1) then
    none
  else
    let value := text.foldl (fun value c => 10 * value + (c.toNat - '0'.toNat)) 0
    if value < Nat.pow 2 32 then some value else none

def readVersion? (text : List Char) : Option Nat :=
  if isValue text then decimal? text else none

def readSetting? (text : List Char) : Option (String × String) :=
  match text.splitOn '=' with
  | [name, value] =>
    if isName name && isValue value then some (String.ofList name, String.ofList value) else none
  | _ => none

def readSettings? (text : List Char) : Option (List (String × String)) :=
  if 127 < text.length then none else (text.splitOn ',').mapM readSetting?

def readSalt? (text : List Char) : Option String :=
  if 4 ≤ text.length && isValue text then some (String.ofList text) else none

def readDigest? (text : List Char) : Option (List UInt8) :=
  match Base64.decode? .standard text with
  | some bytes => if 10 ≤ bytes.length && bytes.length ≤ 64 then some bytes else none
  | none => none

def isVersion : List Char → Bool
  | 'v' :: '=' :: text => !text.contains ','
  | _ => false

/-- The part for the version, if it comes next, and the parts after it. -/
def takeVersion? : List (List Char) → Option (Option Nat × List (List Char))
  | part :: parts =>
    if isVersion part then (readVersion? (part.drop 2)).map fun version => (some version, parts)
    else some (none, part :: parts)
  | [] => some (none, [])

def takeSettings? : List (List Char) → Option (List (String × String) × List (List Char))
  | part :: parts =>
    if part.contains '=' then (readSettings? part).map fun settings => (settings, parts)
    else some ([], part :: parts)
  | [] => some ([], [])

def takeSalt? : List (List Char) → Option (Option String × List (List Char))
  | part :: parts => (readSalt? part).map fun salt => (some salt, parts)
  | [] => some (none, [])

def takeDigest? : List (List Char) → Option (Option (List UInt8) × List (List Char))
  | part :: parts => (readDigest? part).map fun digest => (some digest, parts)
  | [] => some (none, [])

def ofParts? (function : List Char) (parts : List (List Char)) : Option Phc := do
  let (version, parts) ← takeVersion? parts
  let (settings, parts) ← takeSettings? parts
  let (salt, parts) ← takeSalt? parts
  let (digest, parts) ← takeDigest? parts
  if isName function && parts.isEmpty then
    some { function := String.ofList function, version, settings, salt, digest }
  else none

/-- Reads the parts that the dollar signs begin. -/
def read? (text : String) : Option Phc :=
  match text.toList.splitOn '$' with
  | [] :: function :: parts => ofParts? function parts
  | _ => none

def settingChars (setting : String × String) : List Char :=
  setting.1.toList ++ '=' :: setting.2.toList

def settingsChars : List (String × String) → List Char
  | [] => []
  | [setting] => settingChars setting
  | setting :: settings => settingChars setting ++ ',' :: settingsChars settings

def parts (phc : Phc) : List (List Char) :=
  (phc.version.map fun version => 'v' :: '=' :: Nat.toDigits 10 version).toList ++
    (if phc.settings.isEmpty then [] else [settingsChars phc.settings]) ++
    (phc.salt.map String.toList).toList ++
    (phc.digest.map (Base64.encode .standard)).toList

def text (phc : Phc) : String :=
  String.ofList ((phc.function.toList :: phc.parts).flatMap ('$' :: ·))

end Phc

end FormLetter
