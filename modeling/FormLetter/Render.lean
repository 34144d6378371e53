import FormLetter.Content

namespace FormLetter

abbrev Variables : Type :=
  SortedMap Json.Value

/-- What a value puts in the place of a token; a null puts nothing there. -/
def valueText? : Json.Value → Option String
  | .null => none
  | .string text => some text
  | value => some value.text

/-- A string is put in as it is, a number in digits, and a list or an object as it is written in
JSON, with quotes around the strings in it. -/
theorem valueText?_eq (value : Json.Value) :
    valueText? value =
      match value with
      | .null => none
      | .string text => some text
      | .number number => some number.text
      | .bool truth => some (if truth then "true" else "false")
      | .array items => some ("[" ++ ",".intercalate (items.map Json.Value.text) ++ "]")
      | .object members =>
        some ("\x7b" ++ ",".intercalate (members.map fun member =>
          String.ofList (Json.quote member.1) ++ ":" ++ member.2.text) ++ "\x7d") := by
  cases value with
  | null => rfl
  | string text => rfl
  | number number => rfl
  | bool truth => cases truth <;> rfl
  | array items => exact congrArg some (Json.Value.text_array items)
  | object members => exact congrArg some (Json.Value.text_object members)

example :
    valueText? (.array [.number (.integer (-7)), .null, .string "a \"b\""]) =
      some "[-7,null,\"a \\\"b\\\"\"]" := by
  decide

namespace Placeholder

def fill (values : Variables) (p : Placeholder) : String :=
  match (values.get? p.name).bind valueText? with
  | some text => text
  | none => p.default?.getD ""

end Placeholder

def Segment.fill (values : Variables) : Segment → List Char
  | .literal c => [c]
  | .token body => ((Placeholder.ofBody body).fill values).toList

/-- Puts its value, or else its default, or else nothing in the place of every token. -/
def render (text : String) (values : Variables) : String :=
  String.ofList ((Segment.scan text.toList).flatMap (Segment.fill values))

/-- A content with its tokens replaced, and the names that the content refers to. -/
structure Rendering where
  content : Content
  names : List String
  deriving DecidableEq

namespace Content

def render (content : Content) (values : Variables) : Content :=
  content.map fun text => FormLetter.render text values

/-- Nothing is rendered of a content that is not fit for use. -/
def renderChecked (content : Content) (values : Variables) : Except TextFault Rendering :=
  match content.check with
  | .ok () => .ok { content := content.render values, names := content.variableNames }
  | .error fault => .error fault

end Content

def Rendering.toJson (rendering : Rendering) : Json.Value :=
  .object
    [("rendered_content", rendering.content.toJson),
     ("variables", .array (rendering.names.map .string))]

end FormLetter
