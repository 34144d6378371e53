import FormLetter.Category
import FormLetter.Content
import FormLetter.Page
import FormLetter.Timestamp

namespace FormLetter

structure Template where
  id : Int
  title : String
  description : Option String
  content : Content
  category : Category
  createdAt : Timestamp
  updatedAt : Timestamp
  deriving DecidableEq

structure NewTemplate where
  title : String
  description : Option String
  content : Content
  category : Category
  deriving DecidableEq

/-- The fields of a template that are to change. -/
structure TemplatePatch where
  title : Option String
  description : Option String
  content : Option Content
  category : Option Category
  deriving DecidableEq

namespace NewTemplate

def toTemplate (new : NewTemplate) (id : Int) (now : Timestamp) : Template where
  id := id
  title := new.title
  description := new.description
  content := new.content
  category := new.category
  createdAt := now
  updatedAt := now

end NewTemplate

namespace TemplatePatch

def apply (patch : TemplatePatch) (now : Timestamp) (template : Template) : Template :=
  { template with
    title := patch.title.getD template.title
    description := patch.description.or template.description
    content := patch.content.getD template.content
    category := patch.category.getD template.category
    updatedAt := now }

end TemplatePatch

def Template.toJson (template : Template) : Json.Value :=
  .object
    [("id", .number (.integer template.id)),
     ("title", .string template.title),
     ("description", template.description.elim .null .string),
     ("content", template.content.toJson),
     ("category", template.category.toJson),
     ("created_at", .string template.createdAt.text),
     ("updated_at", .string template.updatedAt.text)]

def Page.toJson (page : Page Template) : Json.Value :=
  .object
    [("data", .array (page.data.map Template.toJson)),
     ("total", .number (.integer page.total.toInt)),
     ("page", .number (.integer page.page.toInt)),
     ("limit", .number (.integer page.limit.toInt)),
     ("last_page", .number (.integer page.lastPage.toInt))]

end FormLetter
