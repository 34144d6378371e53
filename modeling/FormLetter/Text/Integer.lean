namespace FormLetter

/-- Why a text spells no integer of the wanted size. -/
inductive IntegerFault where
  | empty
  | invalidDigit
  | tooLarge
  | tooSmall
  deriving DecidableEq

def IntegerFault.message : IntegerFault → String
  | .empty => "cannot parse integer from empty string"
  | .invalidDigit => "invalid digit found in string"
  | .tooLarge => "number too large to fit in target type"
  | .tooSmall => "number too small to fit in target type"

/-- The integers from the least to the greatest; a minus sign is read only if some are negative. -/
structure IntegerRange where
  least : Int
  greatest : Int

namespace IntegerRange

def signed (bits : Nat) : IntegerRange :=
  ⟨-(Nat.pow 2 (bits - 1) : Int), (Nat.pow 2 (bits - 1) : Int) - 1⟩

def unsigned (bits : Nat) : IntegerRange :=
  ⟨0, (Nat.pow 2 bits : Int) - 1⟩

/-- Reads digits on to the end; the first character that does not fit decides. -/
def readDigits (bound : Nat) (beyond : IntegerFault) :
    Nat → List Char → Except IntegerFault Nat
  | value, [] => .ok value
  | value, c :: rest =>
    if !c.isDigit then .error .invalidDigit
    else
      let value := 10 * value + (c.toNat - '0'.toNat)
      if bound < value then .error beyond else readDigits bound beyond value rest

def readMagnitude (bound : Nat) (beyond : IntegerFault) (digits : List Char) :
    Except IntegerFault Nat :=
  if digits.isEmpty then .error .invalidDigit else readDigits bound beyond 0 digits

def readChars (range : IntegerRange) (text : List Char) : Except IntegerFault Int :=
  match text with
  | [] => .error .empty
  | '+' :: digits => (readMagnitude range.greatest.toNat .tooLarge digits).map Int.ofNat
  | '-' :: digits =>
    if 0 ≤ range.least then .error .invalidDigit
    else (readMagnitude (-range.least).toNat .tooSmall digits).map fun n => -(n : Int)
  | digits => (readMagnitude range.greatest.toNat .tooLarge digits).map Int.ofNat

/-- Reads a sign, if there is one, and digits. -/
def read (range : IntegerRange) (text : String) : Except IntegerFault Int :=
  range.readChars text.toList

end IntegerRange

end FormLetter
