import FormLetter.Json.Fault
import FormLetter.Json.Number
import FormLetter.Text.Symbol

namespace FormLetter.Json

def isSpace (symbol : Symbol) : Bool :=
  symbol == .char ' ' || symbol == .char '\t' || symbol == .char '\n' || symbol == .char '\r'

def skipSpace (text : List Symbol) : List Symbol :=
  text.dropWhile isSpace

/-- The text after a word that it has to start with. -/
def scanWord : List Char → List Symbol → Except SyntaxFault (List Symbol)
  | [], text => .ok text
  | _ :: _, [] => .error .endInValue
  | c :: word, symbol :: text =>
    if symbol = .char c then scanWord word text else .error .unknownWord

/-! Numbers. -/

def digitsValue (digits : List Symbol) : Nat :=
  digits.foldl (fun value digit => 10 * value + digit.digitValue) 0

/-- At least one digit, and what comes after the digits. -/
def scanDigits (text : List Symbol) : Except SyntaxFault (List Symbol × List Symbol) :=
  match text.takeWhile Symbol.isDigit with
  | [] => .error (if text.isEmpty then .endInValue else .badNumber)
  | digits => .ok (digits, text.dropWhile Symbol.isDigit)

/-- The digits before any fraction; only a lone zero starts with one. -/
def scanWhole (text : List Symbol) : Except SyntaxFault (List Symbol × List Symbol) :=
  match scanDigits text with
  | .ok (.char '0' :: _ :: _, _) => .error .badNumber
  | scanned => scanned

/-- The digits of a fraction, none where no point is written. -/
def scanFraction : List Symbol → Except SyntaxFault (Option (List Symbol) × List Symbol)
  | .char '.' :: text => (scanDigits text).map fun (digits, rest) => (some digits, rest)
  | text => .ok (none, text)

def scanSigned : List Symbol → Except SyntaxFault (Int × List Symbol)
  | .char '-' :: text =>
    (scanDigits text).map fun (digits, rest) => (-(digitsValue digits : Int), rest)
  | .char '+' :: text =>
    (scanDigits text).map fun (digits, rest) => ((digitsValue digits : Int), rest)
  | text => (scanDigits text).map fun (digits, rest) => ((digitsValue digits : Int), rest)

def scanExponent : List Symbol → Except SyntaxFault (Option Int × List Symbol)
  | .char 'e' :: text => (scanSigned text).map fun (exponent, rest) => (some exponent, rest)
  | .char 'E' :: text => (scanSigned text).map fun (exponent, rest) => (some exponent, rest)
  | text => .ok (none, text)

def scanMagnitude (negative : Bool) (text : List Symbol) :
    Except SyntaxFault (Numeral × List Symbol) := do
  let (whole, text) ← scanWhole text
  let (fraction, text) ← scanFraction text
  let (exponent, text) ← scanExponent text
  let digits := whole ++ fraction.getD []
  let places := (fraction.getD []).length
  pure
    ({ negative
       integral := fraction.isNone && exponent.isNone
       magnitude := ⟨digitsValue digits, exponent.getD 0 - places⟩
       exponent := exponent.getD 0 }, text)

def scanNumeral : List Symbol → Except SyntaxFault (Numeral × List Symbol)
  | .char '-' :: text => scanMagnitude true text
  | text => scanMagnitude false text

/-! Strings. -/

/-- What stands in a string: a character, a code of 16 bits that an escape gives in digits, or a
byte that belongs to no character. -/
inductive Piece where
  | char (c : Char)
  | code (code : Nat)
  | stray
  deriving DecidableEq

def hexCode? (a b c d : Symbol) : Option Nat := do
  let a ← a.hexValue?
  let b ← b.hexValue?
  let c ← c.hexValue?
  let d ← d.hexValue?
  pure (((16 * a + b) * 16 + c) * 16 + d)

def escapedChar? : Char → Option Char
  | '"' => some '"'
  | '\\' => some '\\'
  | '/' => some '/'
  | 'b' => some '\x08'
  | 'f' => some '\x0c'
  | 'n' => some '\n'
  | 'r' => some '\r'
  | 't' => some '\t'
  | _ => none

/-- The fault of an escape whose four digits are not there: they are cut off if fewer than four
bytes are left. -/
def hexFault (text : List Symbol) : SyntaxFault :=
  if text.foldl (fun size symbol => size + symbol.size) 0 < 4 then .endInString else .badHexEscape

def prependPiece (piece : Piece) :
    List Piece × Except SyntaxFault (List Symbol) → List Piece × Except SyntaxFault (List Symbol)
  | (pieces, rest) => (piece :: pieces, rest)

/-- The pieces of a string up to its closing quote, and the text after the quote. -/
def scanPieces : List Symbol → List Piece × Except SyntaxFault (List Symbol)
  | [] => ([], .error .endInString)
  | .char '"' :: text => ([], .ok text)
  | .char '\\' :: .char 'u' :: a :: b :: c :: d :: text =>
    match hexCode? a b c d with
    | some code => prependPiece (.code code) (scanPieces text)
    | none => ([], .error .badHexEscape)
  | .char '\\' :: .char 'u' :: text => ([], .error (hexFault text))
  | .char '\\' :: .char c :: text =>
    match escapedChar? c with
    | some c => prependPiece (.char c) (scanPieces text)
    | none => ([], .error .unknownEscape)
  | .char '\\' :: .stray :: _ => ([], .error .unknownEscape)
  | [.char '\\'] => ([], .error .endInString)
  | .char c :: text =>
    if c.toNat < 0x20 then ([], .error .controlCharacter)
    else prependPiece (.char c) (scanPieces text)
  | .stray :: text => prependPiece .stray (scanPieces text)

def isHighHalf (code : Nat) : Bool :=
  0xD800 ≤ code && code < 0xDC00

def isLowHalf (code : Nat) : Bool :=
  0xDC00 ≤ code && code < 0xE000

def joinHalves (high low : Nat) : Char :=
  Char.ofNat (0x10000 + (high - 0xD800) * 0x400 + (low - 0xDC00))

/-- What is wrong where a first half is the last piece of a string, given how the string breaks off
if it does. -/
def halfAtEnd : Option SyntaxFault → Stop
  | none => ⟨.cutHalf, true⟩
  | some .endInString => ⟨.endInString, false⟩
  | some .badHexEscape => ⟨.badHexEscape, false⟩
  | some _ => ⟨.cutHalf, false⟩

/-- The characters that pieces spell. The halves of a character are joined as they are met; bytes
that have gone astray show only when the string has been read. -/
def spell (ending : Option SyntaxFault) : List Piece → Except Stop (List Char)
  | [] =>
    match ending with
    | none => .ok []
    | some fault => .error ⟨fault, false⟩
  | .char c :: pieces => (spell ending pieces).map (c :: ·)
  | .stray :: pieces =>
    match spell ending pieces with
    | .ok _ => .error ⟨.badCharacter, true⟩
    | .error stop => .error stop
  | .code code :: pieces =>
    if isLowHalf code then .error ⟨.loneHalf, false⟩
    else if isHighHalf code then
      match pieces with
      | [] => .error (halfAtEnd ending)
      | .code low :: pieces =>
        if isLowHalf low then (spell ending pieces).map (joinHalves code low :: ·)
        else .error ⟨.loneHalf, false⟩
      | _ => .error ⟨.cutHalf, false⟩
    else (spell ending pieces).map (Char.ofNat code :: ·)

/-- The fault of what could not be scanned. -/
def faultOf? {α : Type} : Except SyntaxFault α → Option SyntaxFault
  | .ok _ => none
  | .error fault => some fault

/-- What a string spells, from after its opening quote on, and the text after its closing quote. -/
def scanString (text : List Symbol) : Except Stop String × Except SyntaxFault (List Symbol) :=
  let (pieces, rest) := scanPieces text
  ((spell (faultOf? rest) pieces).map String.ofList, rest)

end FormLetter.Json
