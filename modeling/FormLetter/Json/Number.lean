import FormLetter.Binary64.Shortest

namespace FormLetter.Json

/-- A number as its text spells it. -/
structure Numeral where
  negative : Bool
  /-- Neither a fraction nor an exponent is written. -/
  integral : Bool
  magnitude : Decimal
  /-- The exponent that is written out, zero where none is. -/
  exponent : Int
  deriving DecidableEq

/-- An integer of 64 bits, signed or not, or a binary fraction. -/
inductive Number where
  | integer (value : Int)
  | float (value : Binary64)
  deriving DecidableEq

/-- Integers that 64 bits cannot hold, and a negative zero, are kept as binary fractions. It is
assumed that a decimal is rounded correctly, however many digits it is written with. -/
def Numeral.number? (numeral : Numeral) : Option Number :=
  let digits := numeral.magnitude.digits
  if numeral.integral && !numeral.negative && digits < Nat.pow 2 64 then some (.integer digits)
  else if numeral.integral && numeral.negative && 0 < digits && digits ≤ Nat.pow 2 63 then
    some (.integer (-digits))
  else (Binary64.ofDecimal? numeral.negative numeral.magnitude).map .float

/-- Whether the written exponent, its last digit aside, fits into 32 bits. A number that is too
large shows as such at its last digit, unless its exponent is known to be too large before. -/
def Numeral.fitsAtLastDigit (numeral : Numeral) : Bool :=
  numeral.exponent / 10 < Nat.pow 2 31

def zeros (count : Int) : List Char :=
  List.replicate count.toNat '0'

/-- Plain notation with a fraction where the leading digit counts from `10 ^ -5` to `10 ^ 15`, and
notation with a signed exponent elsewhere. -/
def decimalChars (d : Decimal) : List Char :=
  let digits := d.digitChars
  let lead := d.magnitude
  if lead < -5 ∨ 15 < lead then
    let fraction := digits.drop 1
    digits.take 1 ++ (if fraction.isEmpty then [] else '.' :: fraction) ++
      'e' :: (if lead < 0 then '-' else '+') :: Nat.toDigits 10 lead.natAbs
  else if lead < 0 then '0' :: '.' :: zeros (-lead - 1) ++ digits
  else if 0 ≤ d.exponent then digits ++ zeros d.exponent ++ ['.', '0']
  else digits.take (lead + 1).toNat ++ '.' :: digits.drop (lead + 1).toNat

def Number.chars : Number → List Char
  | .integer value => value.repr.toList
  | .float value =>
    let text := decimalChars value.shortest
    if value.negative then '-' :: text else text

def Number.text (number : Number) : String :=
  String.ofList number.chars

end FormLetter.Json
