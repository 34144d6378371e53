import FormLetter.Render
import FormLetter.Service.Request
import FormLetter.Store.Call

/-!
# Templates

All that can be checked without the store is checked before the store is asked.
-/

namespace FormLetter.Templates

def titleLimit : Nat :=
  150

/-- A title has one to so many characters, not all of them blank. -/
def checkTitleLength (title : String) : Except Failure Unit :=
  if 1 ≤ title.length ∧ title.length ≤ titleLimit then .ok ()
  else .error (.invalidField "title" "Title must be 1 to 150 characters")

def checkTitleNotBlank (title : String) : Except Failure Unit :=
  if IsBlankText title then .error (.invalid "Title cannot be blank") else .ok ()

def checkContent (content : Content) : Except Failure Unit :=
  content.check.mapError .unfit

def chooseCategory (text : Option String) : Except Failure Category :=
  (CategoryChoice.ofText text).known?.mapError fun text =>
    .invalidCategory text Category.allowed

def checkPresent {α : Type} (check : α → Except Failure Unit) : Option α → Except Failure Unit
  | none => .ok ()
  | some a => check a

/-- Only an object gives values to variables. -/
def requireVariables : Option Json.Value → Except Failure Variables
  | some (.object members) => .ok (SortedMap.ofList members)
  | _ => .error .missingVariables

def renderContent (content : Content) (values : Variables) : Except Failure Rendering :=
  (content.renderChecked values).mapError .unfit

def missing (id : Int) : Failure :=
  .notFound "Template" id

/-- The template to store for a request, once title, content and category have been checked. -/
def accept (request : CreateRequest) : Except Failure NewTemplate := do
  checkTitleLength request.title
  checkTitleNotBlank request.title
  checkContent request.content
  let category ← chooseCategory request.category
  pure
    { title := request.title
      description := request.description
      content := request.content
      category := category }

/-- The change to make for a request, once what it holds has been checked. -/
def acceptPatch (request : UpdateRequest) : Except Failure TemplatePatch := do
  checkPresent checkTitleLength request.title
  checkPresent checkTitleNotBlank request.title
  checkPresent checkContent request.content
  let category ←
    match request.category with
    | none => pure none
    | some text => some <$> chooseCategory (some text)
  pure
    { title := request.title
      description := request.description
      content := request.content
      category := category }

def found (id : Int) : Option Template → Except Failure Template
  | some template => .ok template
  | none => .error (missing id)

def removed (id : Int) : Bool → Except Failure Unit
  | true => .ok ()
  | false => .error (missing id)

def create (request : CreateRequest) : Service Template := do
  let new ← Service.ofExcept (accept request)
  Service.ask (.createTemplate new)

def get (id : Int) : Service Template := do
  let template ← Service.ask (.findTemplate id)
  Service.ofExcept (found id template)

/-- One page of the templates, newest first, unless one of its numbers has no room. -/
def list (request : PageRequest) : Service (Option (Page Template)) :=
  match request.offset? with
  | none => pure none
  | some offset => do
    let (rows, total) ← Service.ask (.listTemplates request.limit offset)
    pure (Page.of? rows total request)

def update (id : Int) (request : UpdateRequest) : Service Template := do
  let patch ← Service.ofExcept (acceptPatch request)
  let template ← Service.ask (.updateTemplate id patch)
  Service.ofExcept (found id template)

def delete (id : Int) : Service Unit := do
  let deleted ← Service.ask (.deleteTemplate id)
  Service.ofExcept (removed id deleted)

/-- The variables are looked at before the store is. -/
def render (id : Int) (request : RenderRequest) : Service Rendering := do
  let values ← Service.ofExcept (requireVariables request.values)
  let template ← get id
  Service.ofExcept (renderContent template.content values)

/-- The names that a stored template refers to. -/
def variableNames (id : Int) : Service (List String) := do
  let template ← get id
  Service.ofExcept (checkContent template.content)
  pure template.content.variableNames

/-- Renders a content that is not stored. -/
def preview (request : PreviewRequest) : Except Failure Rendering := do
  let values ← requireVariables request.values
  renderContent request.content values

/-- Whether the store can be reached. -/
def healthy : Program Bool :=
  .call .ping fun reply =>
    match reply with
    | .ok _ => .done true
    | .error _ => .done false

end FormLetter.Templates
