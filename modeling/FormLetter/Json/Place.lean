namespace FormLetter.Json

/-- A step down from a value to one of its parts. -/
inductive Step where
  | member (key : String)
  | item (position : Nat)
  deriving DecidableEq

/-- Where in a value something stands, as the steps that lead there. -/
abbrev Place : Type :=
  List Step

namespace Place

/-- A member is written with a dot before its key, an item with its position in brackets. -/
def stepText : Step → String
  | .member key => "." ++ key
  | .item position => "[" ++ position.repr ++ "]"

/-- The steps in writing; no dot stands at the start. -/
def text : Place → String
  | [] => ""
  | .member key :: steps => key ++ String.join (steps.map stepText)
  | steps => String.join (steps.map stepText)

end Place

end FormLetter.Json
