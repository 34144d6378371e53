import FormLetter.Decimal

/-!
# Binary fractions of 64 bits

Decimals are rounded to the nearest binary fraction, and halfway between two of them to the even
one.
-/

namespace FormLetter

/-- The number `±significand · 2 ^ exponent`; a zero keeps its sign. -/
structure Binary64 where
  negative : Bool
  significand : Nat
  exponent : Int
  deriving DecidableEq

namespace Binary64

/-- Significands of full precision lie between this and its double. -/
def leadingBit : Nat :=
  Nat.pow 2 52

def leastExponent : Int :=
  -1074

def greatestExponent : Int :=
  971

def zero (negative : Bool) : Binary64 :=
  ⟨negative, 0, leastExponent⟩

/-- The quotient rounded to the nearest natural number, a half to the even neighbour. -/
def divNearest (numerator denominator : Nat) : Nat :=
  let quotient := numerator / denominator
  let remainder := numerator % denominator
  if 2 * remainder < denominator then quotient
  else if denominator < 2 * remainder then quotient + 1
  else quotient + quotient % 2

/-- The exponent at which a positive fraction has a significand of full precision, or the least
one. -/
def exponentFor (numerator denominator : Nat) : Int :=
  let exponent : Int := numerator.log2 - denominator.log2 - 52
  let unit := Decimal.power 2 exponent
  let exponent :=
    if numerator * unit.2 < leadingBit * (denominator * unit.1) then exponent - 1 else exponent
  max exponent leastExponent

/-- The nearest number to a positive fraction, a tie going to the even significand. -/
def ofFraction? (negative : Bool) (numerator denominator : Nat) : Option Binary64 :=
  let exponent := exponentFor numerator denominator
  let unit := Decimal.power 2 exponent
  let significand := divNearest (numerator * unit.2) (denominator * unit.1)
  let rounded : Binary64 :=
    if significand = 2 * leadingBit then ⟨negative, leadingBit, exponent + 1⟩
    else ⟨negative, significand, exponent⟩
  if greatestExponent < rounded.exponent then none else some rounded

/-- The nearest number to a decimal; there is none once the decimal is too large. -/
def ofDecimal? (negative : Bool) (d : Decimal) : Option Binary64 :=
  if d.digits = 0 then some (zero negative)
  else if 400 < d.magnitude then none
  else if d.magnitude < -400 then some (zero negative)
  else
    let ten := Decimal.power 10 d.exponent
    ofFraction? negative (d.digits * ten.1) ten.2

end Binary64

end FormLetter
