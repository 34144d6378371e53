import FormLetter.Base64
import FormLetter.Settings
import FormLetter.Sha256
import FormLetter.Text.Split
import FormLetter.Text.Utf8
import FormLetter.Token.Claims
import FormLetter.Token.Header

/-!
# Tokens

A token holds a header and claims, signed with a secret. The signature covers the header and the
claims as they are written, so it is checked before the claims are read.
-/

namespace FormLetter.Token

/-- Why a token is refused. -/
inductive Refusal where
  | notThreeParts
  | notBase64
  | notJson
  | wrongAlgorithm
  | wrongSignature
  | noExpiry
  | expired
  | audience
  deriving DecidableEq

def encodePart (text : String) : List Char :=
  Base64.encode .urlSafe (Utf8.encode text)

def decodePart (part : List Char) : Except Refusal (List UInt8) :=
  match Base64.decode? .urlSafe part with
  | none => .error .notBase64
  | some bytes => .ok bytes

def readPart {α : Type} (read : Json.Reader α) (bytes : List UInt8) : Except Refusal α :=
  match (Json.Document.ofBytes bytes).read read with
  | .ok result => .ok result
  | .error _ => .error .notJson

def header : Json.Value :=
  .object [("typ", .string "JWT"), ("alg", .string "HS256")]

/-- The signature of a text under a secret, as it is written into a token. -/
def signature (secret : String) (text : List Char) : List Char :=
  Base64.encode .urlSafe (Sha256.hmac (Utf8.encode secret) (Utf8.encode (String.ofList text)))

/-- Writes header, claims and signature with dots between them. -/
def sign (secret : String) (claims : Claims) : String :=
  let signed := encodePart header.text ++ '.' :: encodePart claims.toJson.text
  String.ofList (signed ++ '.' :: signature secret signed)

/-- A token for an account, valid from now on for the time that the settings give. There is none
where that time has too many seconds, or ends too late to be told. -/
def issue? (settings : TokenSettings) (now : Int64) (jti : String) (userId : Int64)
    (username : String) : Option String := do
  let lifetime ← settings.lifetime?
  let expiry ← Word.add? now lifetime
  pure <| sign settings.secret
    { sub := userId
      username := username
      exp := expiry
      iat := now
      jti := jti }

/-- How many seconds after its expiry a token is still accepted. -/
def leeway : Int :=
  60

def Registered.check (now : Int64) (claims : Registered) : Except Refusal Unit :=
  match claims.expires with
  | none => .error .noExpiry
  | some expires =>
    if (expires : Int) < now.toInt - leeway then .error .expired
    else if claims.hasAudience then .error .audience
    else .ok ()

/-- The claims of a token with the right signature that has not expired. -/
def validate (secret : String) (now : Int64) (token : String) : Except Refusal Claims := do
  let some (signed, signatureText) := splitAtLast? '.' token.toList | .error .notThreeParts
  let some (headerText, claimsText) := splitAtLast? '.' signed | .error .notThreeParts
  let header ← decodePart headerText
  let algorithm ← readPart Header.record.read header
  if algorithm != "HS256" then .error .wrongAlgorithm
  else if signatureText != signature secret signed then .error .wrongSignature
  else
    let bytes ← decodePart claimsText
    let claims ← readPart Claims.record.read bytes
    let registered ← readPart Registered.record.read bytes
    registered.check now
    pure claims

end FormLetter.Token
