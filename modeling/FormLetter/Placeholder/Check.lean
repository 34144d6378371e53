import FormLetter.Placeholder
import FormLetter.Placeholder.Name
import FormLetter.SortedMap

/-!
# Texts fit for use

A text is fit for use when it is not blank and every token names a variable. A token without a name
anywhere counts before a bad name anywhere.
-/

namespace FormLetter

/-- What makes a template text unfit for use. -/
inductive TextFault where
  | empty
  | nameless (token : String)
  | badName (name : String)
  deriving DecidableEq

def TextFault.message : TextFault → String
  | .empty => "Template content cannot be empty"
  | .nameless token => "Invalid placeholder format detected: " ++ token
  | .badName name => "Invalid variable name: " ++ name

/-- Blank text is refused first, then the first token without a name, then the first name that is
not dotted words. -/
def checkText (text : String) : Except TextFault Unit :=
  if IsBlankText text then .error .empty
  else
    match (Placeholder.all text).find? (fun p => p.name == "") with
    | some p => .error (.nameless p.token)
    | none =>
      match (Placeholder.all text).find? (fun p => !decide (Name.IsDotted p.name)) with
      | some p => .error (.badName p.name)
      | none => .ok ()

/-- The distinct names that a text refers to, in order. -/
def variableNames (text : String) : List String :=
  sortedNames (((Placeholder.all text).map Placeholder.name).filter (· != ""))

end FormLetter
