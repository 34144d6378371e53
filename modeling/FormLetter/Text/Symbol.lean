import FormLetter.Text.Hex
import FormLetter.Text.Utf8

namespace FormLetter

/-- A character of a text, or a byte in it that belongs to no character. -/
inductive Symbol where
  | char (c : Char)
  | stray
  deriving DecidableEq

namespace Symbol

def isDigit : Symbol → Bool
  | .char c => c.isDigit
  | .stray => false

def digitValue : Symbol → Nat
  | .char c => c.toNat - '0'.toNat
  | .stray => 0

def hexValue? : Symbol → Option Nat
  | .char c => FormLetter.hexValue? c
  | .stray => none

/-- How many bytes the symbol takes up. -/
def size : Symbol → Nat
  | .char c => c.utf8Size
  | .stray => 1

def ofText (text : String) : List Symbol :=
  text.toList.map .char

/-- The character that bytes begin with, in the shortest form that spells one. -/
def firstChar? (bytes : List UInt8) : Option Char :=
  [1, 2, 3, 4].findSome? fun size =>
    (Utf8.decode? (bytes.take size)).bind fun text => text.toList.head?

def ofMixedBytes : List UInt8 → List Symbol
  | [] => []
  | byte :: bytes =>
    match firstChar? (byte :: bytes) with
    | some c => .char c :: ofMixedBytes (bytes.drop (c.utf8Size - 1))
    | none => .stray :: ofMixedBytes bytes
termination_by bytes => bytes.length
decreasing_by
  · simp only [List.length_drop, List.length_cons]
    omega
  · exact Nat.lt_succ_self _

/-- Bytes that spell a text are its characters; of others, those that belong to no character go
astray. -/
def ofBytes (bytes : List UInt8) : List Symbol :=
  match Utf8.decode? bytes with
  | some text => ofText text
  | none => ofMixedBytes bytes

end Symbol

end FormLetter
