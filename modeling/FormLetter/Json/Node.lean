import FormLetter.Json.Scan

/-!
# Nodes

A text is scanned once into a tree that also holds what is wrong with it, down to the place where it
breaks off. What a reader makes of the tree then follows the reading order of the text: a reader
that stops early never sees a fault further on.
-/

namespace FormLetter.Json

/-- A JSON text as far as it is well formed. A container in which the text breaks off holds, as its
ending, the fault where it does so. -/
inductive Node where
  | null
  | bool (value : Bool)
  | number (numeral : Numeral)
  /-- The text, or why there is none: halves of characters and bytes that belong to no character
  spell nothing. -/
  | string (text : Except Stop String)
  | array (items : List Node) (ending : Option SyntaxFault)
  | object (members : List (Except Stop String × Node)) (ending : Option SyntaxFault)
  | broken (fault : SyntaxFault)

namespace Node

/-- The fault at which the text of the node breaks off. A string that breaks off does so in a
container or a document that says so. -/
def ending? : Node → Option SyntaxFault
  | .array _ ending => ending
  | .object _ ending => ending
  | .broken fault => some fault
  | _ => none

def isText : Node → Bool
  | .string (.ok _) => true
  | _ => false

def isTexts : Node → Bool
  | .array items _ => items.all isText
  | _ => false

/-- A node together with the text after it, or with the fault at which the text breaks off in it. -/
abbrev Scanned : Type :=
  Node × Except SyntaxFault (List Symbol)

def scannedWord (node : Node) : Except SyntaxFault (List Symbol) → Scanned
  | .ok rest => (node, .ok rest)
  | .error fault => (.broken fault, .error fault)

def scannedNumber : Except SyntaxFault (Numeral × List Symbol) → Scanned
  | .ok (numeral, rest) => (.number numeral, .ok rest)
  | .error fault => (.broken fault, .error fault)

def scannedString : Except Stop String × Except SyntaxFault (List Symbol) → Scanned
  | (text, rest) => (.string text, rest)

def startsNumber : Symbol → Bool
  | .char c => c.isDigit || c == '-'
  | .stray => false

def scanScalar : List Symbol → Scanned
  | [] => (.broken .endInValue, .error .endInValue)
  | .char '"' :: inner => scannedString (scanString inner)
  | .char 'n' :: text => scannedWord .null (scanWord ['u', 'l', 'l'] text)
  | .char 't' :: text => scannedWord (.bool true) (scanWord ['r', 'u', 'e'] text)
  | .char 'f' :: text => scannedWord (.bool false) (scanWord ['a', 'l', 's', 'e'] text)
  | symbol :: text =>
    if startsNumber symbol then scannedNumber (scanNumeral (symbol :: text))
    else (.broken .noValue, .error .noValue)

mutual

/-- Scans one node off the front. -/
def scan : Nat → List Symbol → Scanned
  | 0, _ => (.broken .endInValue, .error .endInValue)
  | fuel + 1, text =>
    match skipSpace text with
    | .char '[' :: inner =>
      match skipSpace inner with
      | [] => (.array [] (some .endInList), .error .endInList)
      | .char ']' :: rest => (.array [] none, .ok rest)
      | inner =>
        let (items, rest) := scanItems fuel inner
        (.array items (faultOf? rest), rest)
    | .char '\x7b' :: inner =>
      match skipSpace inner with
      | [] => (.object [] (some .endInObject), .error .endInObject)
      | .char '\x7d' :: rest => (.object [] none, .ok rest)
      | inner =>
        let (members, rest) := scanMembers fuel inner
        (.object members (faultOf? rest), rest)
    | text => scanScalar text

/-- Scans the items from the next one on. -/
def scanItems : Nat → List Symbol → List Node × Except SyntaxFault (List Symbol)
  | 0, _ => ([], .error .endInValue)
  | fuel + 1, text =>
    match scan fuel text with
    | (item, .error fault) => ([item], .error fault)
    | (item, .ok rest) =>
      match skipSpace rest with
      | [] => ([item], .error .endInList)
      | .char ']' :: rest => ([item], .ok rest)
      | .char ',' :: rest =>
        match skipSpace rest with
        | .char ']' :: _ => ([item], .error .trailingComma)
        | rest =>
          let (items, rest) := scanItems fuel rest
          (item :: items, rest)
      | _ => ([item], .error .noListEnd)

/-- Scans the members from the next one on. -/
def scanMembers : Nat → List Symbol →
    List (Except Stop String × Node) × Except SyntaxFault (List Symbol)
  | 0, _ => ([], .error .endInValue)
  | fuel + 1, text =>
    match skipSpace text with
    | [] => ([], .error .endInValue)
    | .char '\x7d' :: _ => ([], .error .trailingComma)
    | .char '"' :: inner =>
      match scanString inner with
      | (key, .error fault) => ([(key, .broken fault)], .error fault)
      | (key, .ok rest) =>
        match skipSpace rest with
        | [] => ([(key, .broken .endInObject)], .error .endInObject)
        | .char ':' :: rest =>
          match scan fuel rest with
          | (value, .error fault) => ([(key, value)], .error fault)
          | (value, .ok rest) =>
            match skipSpace rest with
            | [] => ([(key, value)], .error .endInObject)
            | .char '\x7d' :: rest => ([(key, value)], .ok rest)
            | .char ',' :: rest =>
              let (members, rest) := scanMembers fuel rest
              ((key, value) :: members, rest)
            | _ => ([(key, value)], .error .noObjectEnd)
        | _ => ([(key, .broken .noColon)], .error .noColon)
    | _ => ([], .error .keyNotString)

end

mutual

/-- Where reading a node as a whole stops, if something in it stops it. Containers are read to the
bracket that closes them if the stop leaves nothing else before it. -/
def stop? (depth : Nat) : Node → Option Stop
  | .number numeral =>
    if numeral.number?.isNone then some ⟨.numberOutOfRange, numeral.fitsAtLastDigit⟩ else none
  | .string (.error stop) => some stop
  | .array items ending =>
    match depth with
    | 0 => some ⟨.tooDeep, false⟩
    | depth + 1 => itemsStop? depth ending items
  | .object members ending =>
    match depth with
    | 0 => some ⟨.tooDeep, false⟩
    | depth + 1 => membersStop? depth ending members
  | .broken fault => some ⟨fault, false⟩
  | _ => none

def itemsStop? (depth : Nat) (ending : Option SyntaxFault) : List Node → Option Stop
  | [] => ending.map (⟨·, false⟩)
  | item :: items =>
    match item.stop? depth with
    | some stop => some ⟨stop.fault, stop.atEnd && items.isEmpty && ending.isNone⟩
    | none => itemsStop? depth ending items

def membersStop? (depth : Nat) (ending : Option SyntaxFault) :
    List (Except Stop String × Node) → Option Stop
  | [] => ending.map (⟨·, false⟩)
  | (.error stop, _) :: _ => some ⟨stop.fault, false⟩
  | (.ok _, value) :: members =>
    match value.stop? depth with
    | some stop => some ⟨stop.fault, stop.atEnd && members.isEmpty && ending.isNone⟩
    | none => membersStop? depth ending members

end

end Node

/-- The node that a text starts with, and what is wrong with the text around it: it breaks off in
the node, or goes on after it. -/
structure Document where
  root : Node
  ending : Option SyntaxFault

namespace Document

def endingAfter : Except SyntaxFault (List Symbol) → Option SyntaxFault
  | .ok rest => if (skipSpace rest).isEmpty then none else some .trailingText
  | .error fault => some fault

def ofSymbols (text : List Symbol) : Document :=
  let (root, rest) := Node.scan (2 * text.length + 2) text
  { root, ending := endingAfter rest }

def ofText (text : String) : Document :=
  ofSymbols (Symbol.ofText text)

def ofBytes (bytes : List UInt8) : Document :=
  ofSymbols (Symbol.ofBytes bytes)

end Document

end FormLetter.Json
