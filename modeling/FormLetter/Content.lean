import FormLetter.Json.Reader
import FormLetter.Placeholder.Check

namespace FormLetter

/-- Template text: one text, or several texts under names. -/
inductive Content where
  | plain (text : String)
  | fields (texts : SortedMap String)
  deriving DecidableEq

namespace Content

/-- The texts with their names, in order; a plain text has no name. -/
def parts : Content → List (Option String × String)
  | .plain text => [(none, text)]
  | .fields texts => texts.entries.map fun entry => (some entry.1, entry.2)

def map (f : String → String) : Content → Content
  | .plain text => .plain (f text)
  | .fields texts => .fields (texts.map f)

def checkParts : List (Option String × String) → Except TextFault Unit
  | [] => .ok ()
  | part :: rest =>
    match checkText part.2 with
    | .ok () => checkParts rest
    | .error fault => .error fault

/-- Every text has to be fit for use, and there has to be one. -/
def check (content : Content) : Except TextFault Unit :=
  if content.parts.isEmpty then .error .empty else checkParts content.parts

def variableNames (content : Content) : List String :=
  sortedNames (content.parts.flatMap fun part => FormLetter.variableNames part.2)

def toJson : Content → Json.Value
  | .plain text => .string text
  | .fields texts => .object (texts.map Json.Value.string).entries

def memberTexts? : List (Except Json.Stop String × Json.Node) → Option (List (String × String))
  | [] => some []
  | (.ok key, .string (.ok text)) :: members => (memberTexts? members).map ((key, text) :: ·)
  | _ :: _ => none

def ofNode? : Json.Node → Option Content
  | .string (.ok text) => some (.plain text)
  | .object members _ => (memberTexts? members).map fun texts => .fields (SortedMap.ofList texts)
  | _ => none

/-- A string, or an object of strings in which the last of several members under one name counts. -/
def reader : Json.Reader Content := fun depth node =>
  match node.stop? depth with
  | some stop => .error (.malformed stop.fault)
  | none =>
    match ofNode? node with
    | some content => .ok content
    | none => .error (.mismatch [] (.noVariant "TextContent"))

end Content

end FormLetter
