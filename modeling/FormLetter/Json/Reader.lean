import FormLetter.Json.Node
import FormLetter.Json.Place
import FormLetter.Json.Value
import FormLetter.Text.Quoted

/-!
# Readers

A reader makes a value of a node. It goes through the node in the order of the text, and its error
is the first one that shows in that order.
-/

namespace FormLetter.Json

/-- How a well-formed text fails to hold what is wanted of it. -/
inductive Mismatch where
  | wrongType (found expected : String)
  | missingField (name : String)
  | duplicateField (name : String)
  | wrongLength (length : Nat) (expected : String)
  | unknownVariant (name : String) (expected : List String)
  | noVariant (type : String)
  /-- A string that has to hold a JSON text itself holds none. -/
  | embedded (fault : SyntaxFault)
  deriving DecidableEq

/-- A text is not well formed, or holds something else at the place. -/
inductive ReadError where
  | malformed (fault : SyntaxFault)
  | mismatch (place : Place) (what : Mismatch)
  deriving DecidableEq

def backquoted (text : String) : String :=
  "`" ++ text ++ "`"

def Mismatch.message : Mismatch → String
  | .wrongType found expected => "invalid type: " ++ found ++ ", expected " ++ expected
  | .missingField name => "missing field " ++ backquoted name
  | .duplicateField name => "duplicate field " ++ backquoted name
  | .wrongLength length expected => "invalid length " ++ length.repr ++ ", expected " ++ expected
  | .unknownVariant name expected =>
    "unknown variant " ++ backquoted name ++ ", expected one of " ++
      String.intercalate ", " (expected.map backquoted)
  | .noVariant type => "data did not match any variant of untagged enum " ++ type
  | .embedded fault => fault.message

/-- The error, seen from the value that the step leads down from. -/
def ReadError.inside (step : Step) : ReadError → ReadError
  | .malformed fault => .malformed fault
  | .mismatch place what => .mismatch (step :: place) what

/-- How deep arrays and objects may nest. -/
def nestingLimit : Nat :=
  127

/-- Reads a node, given how many more containers may be entered. -/
abbrev Reader (α : Type) : Type :=
  Nat → Node → Except ReadError α

/-- The result, unless the text breaks off after all that it was read from. -/
def endedBy {α : Type} (ending : Option SyntaxFault) (result : α) : Except ReadError α :=
  match ending with
  | none => .ok result
  | some fault => .error (.malformed fault)

/-- Reads a whole text; what is left over after the value is looked at last. -/
def Document.read {α : Type} (document : Document) (read : Reader α) : Except ReadError α :=
  match read nestingLimit document.root with
  | .ok result => endedBy document.ending result
  | .error error => .error error

namespace Node

/-- What is found in place of something wanted, unless it is no value at all. -/
def found : Node → Except SyntaxFault String
  | .null => .ok "null"
  | .bool true => .ok ("boolean " ++ backquoted "true")
  | .bool false => .ok ("boolean " ++ backquoted "false")
  | .number numeral =>
    match numeral.number? with
    | some (.integer value) => .ok ("integer " ++ backquoted value.repr)
    | some (.float value) => .ok ("floating point " ++ backquoted (Number.float value).text)
    | none => .error .numberOutOfRange
  | .string (.ok text) => .ok ("string " ++ Quoted.encode text)
  | .string (.error stop) => .error stop.fault
  | .array _ _ => .ok "sequence"
  | .object _ _ => .ok "map"
  | .broken fault => .error fault

def refuse {α : Type} (node : Node) (expected : String) : Except ReadError α :=
  match node.found with
  | .ok found => .error (.mismatch [] (.wrongType found expected))
  | .error fault => .error (.malformed fault)

end Node

namespace Reader

def run {α : Type} (read : Reader α) (text : String) : Except ReadError α :=
  (Document.ofText text).read read

def string : Reader String := fun _ node =>
  match node with
  | .string (.ok text) => .ok text
  | _ => node.refuse "a string"

/-- A null counts as nothing. -/
def optional {α : Type} (read : Reader α) : Reader (Option α) := fun depth node =>
  match node with
  | .null => .ok none
  | _ => (read depth node).map some

/-- An integer that 64 bits with a sign can hold. -/
def int64 : Reader Int64 := fun _ node =>
  match node with
  | .number numeral =>
    match numeral.number? with
    | some (.integer value) =>
      if value ≤ Int64.maxValue.toInt then .ok (Int64.ofInt value) else node.refuse "i64"
    | _ => node.refuse "i64"
  | _ => node.refuse "i64"

def oneOf (labels : List String) (label : String) : Except ReadError String :=
  if labels.contains label then .ok label
  else .error (.mismatch [] (.unknownVariant label labels))

/-- One of the labels, or an object whose only member has a label as its key and holds null. -/
def label (labels : List String) : Reader String := fun depth node =>
  match node, depth with
  | .string (.ok label), _ => oneOf labels label
  | .object _ _, 0 => .error (.malformed .tooDeep)
  | .object [] ending, _ + 1 => .error (.malformed (ending.getD .noValue))
  | .object ((.error stop, _) :: _) _, _ + 1 => .error (.malformed stop.fault)
  | .object ((.ok label, value) :: members) ending, _ + 1 =>
    match oneOf labels label, value with
    | .error error, _ => .error error
    | .ok label, .null =>
      if members.isEmpty then endedBy ending label else .error (.malformed .noValue)
    | .ok _, value => value.refuse "unit"
  | node, _ => .error (.malformed (node.ending?.getD .noValue))

end Reader

end FormLetter.Json
