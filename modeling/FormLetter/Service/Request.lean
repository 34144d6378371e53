import FormLetter.Content
import FormLetter.Json.Reader.Value
import FormLetter.Json.Record

/-!
# Requests to the services

What a client asks for, and how it is read from JSON.
-/

namespace FormLetter

open Json (Reader Record)

structure CreateRequest where
  title : String
  description : Option String
  content : Content
  category : Option String

/-- What of a template is to change; what is absent stays. -/
structure UpdateRequest where
  title : Option String := none
  description : Option String := none
  content : Option Content := none
  category : Option String := none

structure RenderRequest where
  values : Option Json.Value := none

structure PreviewRequest where
  content : Content
  values : Option Json.Value

structure Credentials where
  username : String
  password : String
  deriving DecidableEq

namespace UpdateRequest

def record : Record UpdateRequest UpdateRequest where
  name := "UpdateTemplateRequest"
  fields :=
    [.of "title" false (.optional .string) fun title request => { request with title := title },
     .of "description" false (.optional .string) fun description request =>
       { request with description := description },
     .of "content" false (.optional Content.reader) fun content request =>
       { request with content := content },
     .of "category" false (.optional .string) fun category request =>
       { request with category := category }]
  start := {}
  finish := .ok

end UpdateRequest

namespace CreateRequest

def finish (draft : UpdateRequest) : Except String CreateRequest :=
  match draft.title, draft.content with
  | none, _ => .error "title"
  | some _, none => .error "content"
  | some title, some content =>
    .ok
      { title := title
        description := draft.description
        content := content
        category := draft.category }

def record : Record UpdateRequest CreateRequest where
  name := "CreateTemplateRequest"
  fields :=
    [.of "title" false .string fun title draft => { draft with title := some title },
     .of "description" true (.optional .string) fun description draft =>
       { draft with description := description },
     .of "content" false Content.reader fun content draft => { draft with content := some content },
     .of "category" true (.optional .string) fun category draft =>
       { draft with category := category }]
  start := {}
  finish := finish

end CreateRequest

namespace RenderRequest

def record : Record RenderRequest RenderRequest where
  name := "RenderRequest"
  fields :=
    [.of "variables" true (.optional .value) fun values request =>
       { request with values := values }]
  start := {}
  finish := .ok

end RenderRequest

namespace PreviewRequest

structure Draft where
  content : Option Content := none
  values : Option Json.Value := none

def finish (draft : Draft) : Except String PreviewRequest :=
  match draft.content with
  | none => .error "content"
  | some content => .ok { content := content, values := draft.values }

def record : Record Draft PreviewRequest where
  name := "PreviewRequest"
  fields :=
    [.of "content" false Content.reader fun content draft => { draft with content := some content },
     .of "variables" true (.optional .value) fun values draft =>
       { draft with values := values }]
  start := {}
  finish := finish

end PreviewRequest

namespace Credentials

structure Draft where
  username : Option String := none
  password : Option String := none

def finish (draft : Draft) : Except String Credentials :=
  match draft.username, draft.password with
  | none, _ => .error "username"
  | some _, none => .error "password"
  | some username, some password => .ok { username := username, password := password }

def record (name : String) : Record Draft Credentials where
  name := name
  fields :=
    [.of "username" false .string fun username draft => { draft with username := some username },
     .of "password" false .string fun password draft => { draft with password := some password }]
  start := {}
  finish := finish

def registration : Record Draft Credentials :=
  record "RegisterRequest"

def login : Record Draft Credentials :=
  record "LoginRequest"

end Credentials

end FormLetter
