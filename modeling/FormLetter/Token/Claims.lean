import FormLetter.Json.Record

namespace FormLetter.Token

/-- What a token says: whom it stands for, and from when to when in Unix seconds. -/
structure Claims where
  sub : Int64
  username : String
  exp : Int64
  iat : Int64
  jti : String
  deriving DecidableEq

def Claims.toJson (claims : Claims) : Json.Value :=
  .object
    [("sub", .number (.integer claims.sub.toInt)),
     ("username", .string claims.username),
     ("exp", .number (.integer claims.exp.toInt)),
     ("iat", .number (.integer claims.iat.toInt)),
     ("jti", .string claims.jti)]

namespace Claims

structure Draft where
  sub : Option Int64 := none
  username : Option String := none
  exp : Option Int64 := none
  iat : Option Int64 := none
  jti : Option String := none

def Draft.finish (draft : Draft) : Except String Claims :=
  match draft.sub, draft.username, draft.exp, draft.iat, draft.jti with
  | some sub, some username, some exp, some iat, some jti => .ok ⟨sub, username, exp, iat, jti⟩
  | none, _, _, _, _ => .error "sub"
  | _, none, _, _, _ => .error "username"
  | _, _, none, _, _ => .error "exp"
  | _, _, _, none, _ => .error "iat"
  | _, _, _, _, none => .error "jti"

def record : Json.Record Draft Claims where
  name := "Claims"
  fields :=
    [.of "sub" false .int64 fun sub draft => { draft with sub := some sub },
     .of "username" false .string fun username draft => { draft with username := some username },
     .of "exp" false .int64 fun exp draft => { draft with exp := some exp },
     .of "iat" false .int64 fun iat draft => { draft with iat := some iat },
     .of "jti" false .string fun jti draft => { draft with jti := some jti }]
  start := {}
  finish := Draft.finish

end Claims

/-- The registered claims that decide whether a token is accepted, as far as they can be read. -/
structure Registered where
  expires : Option Nat := none
  hasAudience : Bool := false

namespace Registered

/-- A claim that cannot be read is passed over, provided that reading stops at its end. -/
def passOver {α : Type} (nothing : α) (stop : Json.Stop) : Except Json.ReadError α :=
  if stop.atEnd then .ok nothing else .error (.malformed stop.fault)

def seconds? : Json.Node → Option Nat
  | .number numeral =>
    match numeral.number? with
    | some (.integer seconds) => if 0 ≤ seconds then some seconds.toNat else none
    | _ => none
  | _ => none

/-- A time in seconds. Of containers only an empty one can be passed over. -/
def time : Json.Reader (Option Nat) := fun depth node =>
  match node with
  | .array [] none => .ok none
  | .object [] none => .ok none
  | .array _ ending => .error (.malformed (ending.getD .noListEnd))
  | .object _ ending => .error (.malformed (ending.getD .noObjectEnd))
  | _ =>
    match node.stop? depth with
    | some stop => passOver none stop
    | none => .ok (seconds? node)

/-- Whether the claim names somebody: by one text, or by a list of texts. -/
def principal : Json.Reader Bool := fun depth node =>
  match node.stop? depth with
  | some stop => passOver false stop
  | none => .ok (node.isText || node.isTexts)

/-- The claim itself is not looked at, but a container cannot be passed over. -/
def subject : Json.Reader Unit := fun depth node =>
  match node with
  | .array _ ending => .error (.malformed (ending.getD .noListEnd))
  | .object _ ending => .error (.malformed (ending.getD .noObjectEnd))
  | _ =>
    match node.stop? depth with
    | some stop => passOver () stop
    | none => .ok ()

def record : Json.Record Registered Registered where
  name := "Registered"
  fields :=
    [.of "exp" true time fun expires claims => { claims with expires := expires },
     .of "nbf" true time fun _ claims => claims,
     .of "sub" false subject fun _ claims => claims,
     .of "iss" false principal fun _ claims => claims,
     .of "aud" false principal fun named claims => { claims with hasAudience := named }]
  start := {}
  finish := .ok

end Registered

end FormLetter.Token
