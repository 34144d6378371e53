import FormLetter.Json.Reader

/-!
# Records

A record lists its fields. Reading one, from an object or from a list, is the same for all of them.
-/

namespace FormLetter.Json

/-- A field of a record: how its value is read into what has been gathered so far. -/
structure Field (σ : Type) where
  name : String
  /-- The field may be missing at the end of a record that is written as a list. -/
  mayBeCut : Bool
  read : Reader (σ → σ)

def Field.of {σ α : Type} (name : String) (mayBeCut : Bool) (read : Reader α)
    (set : α → σ → σ) : Field σ where
  name := name
  mayBeCut := mayBeCut
  read := fun depth node => (read depth node).map set

/-- A record that is written as an object with its fields as members, or as a list of the fields in
order. -/
structure Record (σ α : Type) where
  name : String
  fields : List (Field σ)
  start : σ
  /-- The record once all is gathered, or the name of the first field that is missing. -/
  finish : σ → Except String α

def Field.readAt {σ : Type} (field : Field σ) (step : Step) (depth : Nat) (node : Node)
    (gathered : σ) : Except ReadError σ :=
  match field.read depth node with
  | .ok put => .ok (put gathered)
  | .error error => .error (error.inside step)

namespace Record

variable {σ α : Type}

def expected (record : Record σ α) : String :=
  "struct " ++ record.name

def expectedList (record : Record σ α) : String :=
  record.expected ++ " with " ++ record.fields.length.repr ++ " elements"

def gatherItems (expected : String) (depth : Nat) (ending : Option SyntaxFault) :
    Nat → List (Field σ) → List Node → σ → Except ReadError σ
  | _, [], items, gathered =>
    if items.isEmpty then endedBy ending gathered else .error (.malformed .trailingText)
  | position, field :: fields, [], gathered =>
    match ending with
    | some fault => .error (.malformed fault)
    | none =>
      if field.mayBeCut then gatherItems expected depth none (position + 1) fields [] gathered
      else .error (.mismatch [] (.wrongLength position expected))
  | position, field :: fields, item :: items, gathered =>
    match field.readAt (.item position) depth item gathered with
    | .ok gathered => gatherItems expected depth ending (position + 1) fields items gathered
    | .error error => .error error

def gatherMembers (fields : List (Field σ)) (depth : Nat) (ending : Option SyntaxFault) :
    List String → List (Except Stop String × Node) → σ → Except ReadError σ
  | _, [], gathered => endedBy ending gathered
  | _, (.error stop, _) :: _, _ => .error (.malformed stop.fault)
  | seen, (.ok key, value) :: members, gathered =>
    match fields.find? (fun field => field.name == key) with
    | none =>
      match value.ending? with
      | none => gatherMembers fields depth ending seen members gathered
      | some fault => .error (.malformed fault)
    | some field =>
      if seen.contains key then .error (.mismatch [] (.duplicateField key))
      else
        match field.readAt (.member key) depth value gathered with
        | .ok gathered => gatherMembers fields depth ending (key :: seen) members gathered
        | .error error => .error error

/-- Faults count in reading order; that a field is missing shows at the end. -/
def read (record : Record σ α) : Reader α := fun depth node =>
  let done (gathered : Except ReadError σ) : Except ReadError α :=
    match gathered with
    | .error error => .error error
    | .ok gathered =>
      match record.finish gathered with
      | .ok result => .ok result
      | .error name => .error (.mismatch [] (.missingField name))
  match node, depth with
  | .array _ _, 0 => .error (.malformed .tooDeep)
  | .object _ _, 0 => .error (.malformed .tooDeep)
  | .array items ending, depth + 1 =>
    done (gatherItems record.expectedList depth ending 0 record.fields items record.start)
  | .object members ending, depth + 1 =>
    done (gatherMembers record.fields depth ending [] members record.start)
  | _, _ => node.refuse record.expected

end Record

end FormLetter.Json
