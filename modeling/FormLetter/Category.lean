import FormLetter.Json.Reader
import FormLetter.Text.Blank

namespace FormLetter

inductive Category where
  | email
  | landingPage
  | invoice
  | portfolio
  | blog
  | other
  deriving DecidableEq

namespace Category

def all : List Category :=
  [.email, .landingPage, .invoice, .portfolio, .blog, .other]

def label : Category → String
  | .email => "Email"
  | .landingPage => "Landing Page"
  | .invoice => "Invoice"
  | .portfolio => "Portfolio"
  | .blog => "Blog"
  | .other => "Other"

def labels : List String :=
  all.map label

def allowed : String :=
  String.intercalate ", " labels

/-- The characters of a text with the case of ASCII letters taken away. -/
def foldCase (text : String) : List Char :=
  text.toList.map Char.toLower

/-- The category with the label, blanks around it and the case of ASCII letters aside. -/
def ofLabel? (label : String) : Option Category :=
  all.find? fun category => foldCase category.label == foldCase (trim label)

def ofExactLabel? (label : String) : Option Category :=
  all.find? fun category => category.label == label

def toJson (category : Category) : Json.Value :=
  .string category.label

def reader : Json.Reader Category := fun depth node =>
  match Json.Reader.label labels depth node with
  | .error error => .error error
  | .ok label =>
    match ofExactLabel? label with
    | some category => .ok category
    | none => .error (.mismatch [] (.unknownVariant label labels))

end Category

/-- A category asked for by name: one of the known ones, or the text as it was given. -/
inductive CategoryChoice where
  | known (category : Category)
  | raw (text : String)
  deriving DecidableEq

namespace CategoryChoice

/-- Nothing and a blank text ask for the category of last resort. -/
def ofText : Option String → CategoryChoice
  | none => .known .other
  | some text =>
    if IsBlankText text then .known .other
    else
      match Category.ofLabel? text with
      | some category => .known category
      | none => .raw text

def text : CategoryChoice → String
  | .known category => category.label
  | .raw text => text

/-- The known category, or the text that names none. -/
def known? : CategoryChoice → Except String Category
  | .known category => .ok category
  | .raw text => .error text

end CategoryChoice

end FormLetter
