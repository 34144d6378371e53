import FormLetter.Binary64

/-!
# Shortest decimals

Among the decimals that round to a number, those with the fewest digits lie on the coarsest grid
that meets the interval around the number; the nearest of them is the one to write.
-/

namespace FormLetter.Binary64

/-- The distance to the lower end of the interval that rounds to the number, in quarters of its last
place. -/
def quartersBelow (x : Binary64) : Nat :=
  if x.significand = leadingBit ∧ leastExponent < x.exponent then 1 else 2

/-- The nearer one of the number's two neighbours among the multiples of `10 ^ place` that rounds to
the number. -/
def onGrid? (x : Binary64) (place : Int) : Option Nat :=
  let ten := Decimal.power 10 place
  let quarter := Decimal.power 2 (x.exponent - 2)
  let step := ten.1 * quarter.2
  let unit := quarter.1 * ten.2
  let value := 4 * x.significand * unit
  let lower := (4 * x.significand - x.quartersBelow) * unit
  let upper := (4 * x.significand + 2) * unit
  let roundsBack (n : Nat) : Bool :=
    if x.significand % 2 = 0 then lower ≤ n * step && n * step ≤ upper
    else lower < n * step && n * step < upper
  let floor := value / step
  let twice := 2 * (value % step)
  let nearer :=
    if twice < step then floor else if step < twice then floor + 1 else floor + floor % 2
  let other := if nearer = floor then floor + 1 else floor
  if roundsBack nearer then some nearer
  else if roundsBack other then some other
  else none

/-- Goes to finer and finer grids until one has a point that rounds to the number. -/
def coarsestFrom (x : Binary64) : Nat → Int → Decimal
  | 0, place => ⟨0, place⟩
  | grids + 1, place =>
    match x.onGrid? place with
    | some digits => ⟨digits, place⟩
    | none => coarsestFrom x grids (place - 1)

/-- The decimal of the fewest digits that rounds to the size of the number. -/
def shortest (x : Binary64) : Decimal :=
  if x.significand = 0 then ⟨0, 0⟩
  else
    let bits : Int := x.significand.log2 + 1 + x.exponent
    x.coarsestFrom 25 (bits * 30103 / 100000 + 1)

end FormLetter.Binary64
