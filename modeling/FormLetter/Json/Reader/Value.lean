import FormLetter.Json.Reader
import FormLetter.SortedMap

/-!
# Reading any value

A value may stand in the text as it is, or as a string that holds a JSON text, in an object that is
marked as holding one. The text in the string is then read on its own, and so may hold such objects
itself.
-/

namespace FormLetter.Json

/-- The key of a member that holds a JSON text in a string. -/
def embeddedKey : String :=
  "$serde_json::private::RawValue"

/-- What is wrong after the only member that an object may have, given the members that follow and
how the object breaks off. -/
def faultAfterOnly (others : List (Except Stop String × Node)) (ending : Option SyntaxFault) :
    Option SyntaxFault :=
  if others.isEmpty then
    match ending with
    | none => none
    | some .endInObject => some .endInObject
    | some .noObjectEnd => some .trailingText
    | some _ => some .trailingComma
  else some .trailingComma

/-- The value that the text in a string spells. -/
def embeddedValue (readText : String → Except Mismatch Value) (node : Node)
    (others : List (Except Stop String × Node)) (ending : Option SyntaxFault) :
    Except ReadError Value :=
  match node with
  | .string (.ok text) =>
    match readText text with
    | .ok value => endedBy (faultAfterOnly others ending) value
    | .error what => .error (.mismatch [] what)
  | _ => (node.refuse "raw value").mapError (ReadError.inside (.member embeddedKey))

/-- What stands under the first key and what follows it, if the first key marks an embedded text. -/
def splitEmbedded? : List (Except Stop String × Node) →
    Option (Node × List (Except Stop String × Node))
  | (.ok key, node) :: others => if key = embeddedKey then some (node, others) else none
  | _ => none

mutual

/-- Any value at all, of duplicate members the last. -/
def Node.value (readText : String → Except Mismatch Value) (depth : Nat) :
    Node → Except ReadError Value
  | .null => .ok .null
  | .bool value => .ok (.bool value)
  | .number numeral =>
    match numeral.number? with
    | some number => .ok (.number number)
    | none => .error (.malformed .numberOutOfRange)
  | .string (.ok text) => .ok (.string text)
  | .string (.error stop) => .error (.malformed stop.fault)
  | .array items ending =>
    match depth with
    | 0 => .error (.malformed .tooDeep)
    | depth + 1 =>
      match itemValues readText depth 0 items with
      | .ok items => endedBy ending (.array items)
      | .error error => .error error
  | .object members ending =>
    match depth with
    | 0 => .error (.malformed .tooDeep)
    | depth + 1 =>
      match splitEmbedded? members with
      | some (node, others) => embeddedValue readText node others ending
      | none =>
        match memberValues readText depth members with
        | .ok members => endedBy ending (.object (SortedMap.ofList members).entries)
        | .error error => .error error
  | .broken fault => .error (.malformed fault)

def itemValues (readText : String → Except Mismatch Value) (depth : Nat) :
    (position : Nat) → List Node → Except ReadError (List Value)
  | _, [] => .ok []
  | position, item :: items =>
    match item.value readText depth with
    | .error error => .error (error.inside (.item position))
    | .ok value => (itemValues readText depth (position + 1) items).map (value :: ·)

def memberValues (readText : String → Except Mismatch Value) (depth : Nat) :
    List (Except Stop String × Node) → Except ReadError (List (String × Value))
  | [] => .ok []
  | (.error stop, _) :: _ => .error (.malformed stop.fault)
  | (.ok key, node) :: members =>
    match node.value readText depth with
    | .error error => .error (error.inside (.member key))
    | .ok value => (memberValues readText depth members).map ((key, value) :: ·)

end

/-- An error in a text that is embedded, as it shows in the text around it. -/
def Mismatch.ofEmbedded : ReadError → Mismatch
  | .malformed fault => .embedded fault
  | .mismatch _ what => what

/-- Reads an embedded text. Each text is longer than those embedded in it, which bounds how many
there can be in one another. -/
def readEmbedded : (limit : Nat) → String → Except Mismatch Value
  | 0, _ => .error (.embedded .endInValue)
  | limit + 1, text =>
    ((Document.ofText text).read fun depth node => node.value (readEmbedded limit) depth).mapError
      Mismatch.ofEmbedded

namespace Reader

def embedded (text : String) : Except Mismatch Value :=
  readEmbedded (text.length + 1) text

def value : Reader Value := fun depth node =>
  node.value embedded depth

/-- An object of any values. -/
def members : Reader (SortedMap Value) := fun depth node =>
  match node, depth with
  | .object _ _, 0 => .error (.malformed .tooDeep)
  | .object members ending, depth + 1 =>
    match memberValues embedded depth members with
    | .ok members => endedBy ending (SortedMap.ofList members)
    | .error error => .error error
  | _, _ => node.refuse "a map"

end Reader

end FormLetter.Json
