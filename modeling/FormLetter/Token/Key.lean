import FormLetter.Json.Reader

/-!
# Keys in headers

The header of a token may carry a public key. The key is not used, but it has to be one.
-/

namespace FormLetter.Token

open Json (Node Stop)

/-- The algorithms that sign tokens. -/
def algorithms : List String :=
  ["HS256", "HS384", "HS512", "ES256", "ES384", "RS256", "RS384", "RS512", "PS256", "PS384",
    "PS512", "EdDSA"]

namespace Key

def isNull : Node → Bool
  | .null => true
  | _ => false

def isNullOrEmpty : Node → Bool
  | .null => true
  | .object [] _ => true
  | _ => false

/-- One of the labels, or an object whose only member has a label as its key and holds nothing. -/
def isLabel (labels : List String) (isNothing : Node → Bool) : Node → Bool
  | .string (.ok label) => labels.contains label
  | .object [(.ok label, value)] _ => labels.contains label && isNothing value
  | _ => false

/-- A field of a key, and what its value has to be like. -/
abbrev Field : Type :=
  String × (Node → Bool)

abbrev Members : Type :=
  List (Except Stop String × Node)

def Members.valuesOf (members : Members) (name : String) : List Node :=
  members.filterMap fun (key, value) =>
    match key with
    | .ok key => if key = name then some value else none
    | .error _ => none

def Members.mayHave (members : Members) (field : Field) : Bool :=
  match members.valuesOf field.1 with
  | [] => true
  | [value] => isNull value || field.2 value
  | _ => false

def Members.has (members : Members) (field : Field) : Bool :=
  match members.valuesOf field.1 with
  | [value] => field.2 value
  | _ => false

/-- The fields that a key of any type may have. -/
def commonFields : List Field :=
  [("use", Node.isText),
   ("key_ops", Node.isTexts),
   ("alg", isLabel (algorithms ++ ["RSA1_5", "RSA-OAEP", "RSA-OAEP-256"]) isNullOrEmpty),
   ("kid", Node.isText),
   ("x5u", Node.isText),
   ("x5c", Node.isTexts),
   ("x5t", Node.isText),
   ("x5t#S256", Node.isText)]

def typeField (type : String) : Field :=
  ("kty", isLabel [type] isNull)

def curveField : Field :=
  ("crv", isLabel ["P-256", "P-384", "P-521", "Ed25519"] isNull)

/-- The fields that a key has to have, for each type of key. -/
def types : List (List Field) :=
  [[typeField "EC", curveField, ("x", Node.isText), ("y", Node.isText)],
   [typeField "RSA", ("n", Node.isText), ("e", Node.isText)],
   [typeField "oct", ("k", Node.isText)],
   [typeField "OKP", curveField, ("x", Node.isText)]]

def Members.isKey (members : Members) : Bool :=
  commonFields.all members.mayHave && types.any fun fields => fields.all members.has

def reader : Json.Reader Unit := fun depth node =>
  match node.stop? depth, node with
  | some stop, _ => .error (.malformed stop.fault)
  | none, .object members _ =>
    if Members.isKey members then .ok () else .error (.mismatch [] (.noVariant "Key"))
  | none, _ => node.refuse "struct Key"

end Key

end FormLetter.Token
