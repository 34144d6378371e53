namespace FormLetter

/-- The number `digits · 10 ^ exponent`. -/
structure Decimal where
  digits : Nat
  exponent : Int
  deriving DecidableEq

namespace Decimal

/-- The power `base ^ exponent` as a fraction of natural numbers. -/
def power (base : Nat) (exponent : Int) : Nat × Nat :=
  if 0 ≤ exponent then (Nat.pow base exponent.toNat, 1) else (1, Nat.pow base (-exponent).toNat)

def digitChars (d : Decimal) : List Char :=
  Nat.toDigits 10 d.digits

/-- The power of ten that the leading digit counts. -/
def magnitude (d : Decimal) : Int :=
  d.exponent + d.digitChars.length - 1

end Decimal

end FormLetter
