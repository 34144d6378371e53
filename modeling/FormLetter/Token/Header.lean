import FormLetter.Json.Record
import FormLetter.Token.Key

namespace FormLetter.Token.Header

def texts : Json.Reader Unit := fun depth node =>
  match node.stop? depth with
  | some stop => .error (.malformed stop.fault)
  | none => if node.isTexts then .ok () else node.refuse "a sequence"

/-- A field that may be left out, and whose value does not matter as long as it can be read. -/
def spareField {α : Type} (name : String) (read : Json.Reader α) : Json.Field (Option String) :=
  .of name false (.optional read) fun _ algorithm => algorithm

/-- The algorithm that a header names; the other fields of the header only have to be of their
types. -/
def record : Json.Record (Option String) String where
  name := "Header"
  fields :=
    [spareField "typ" .string,
     .of "alg" false (.label algorithms) fun algorithm _ => some algorithm,
     spareField "cty" .string,
     spareField "jku" .string,
     spareField "jwk" Key.reader,
     spareField "kid" .string,
     spareField "x5u" .string,
     spareField "x5c" texts,
     spareField "x5t" .string,
     spareField "x5t#S256" .string]
  start := none
  finish := fun algorithm => algorithm.elim (.error "alg") .ok

end FormLetter.Token.Header
