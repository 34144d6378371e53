/-!
# Numbers of 64 bits

Sums, differences and products are those of the integers. Where one has no room in 64 bits, there is
no number that stands for it.
-/

namespace FormLetter

/-- Whether an integer has room in 64 bits, one of which is for its sign. -/
def FitsWord (n : Int) : Prop :=
  -0x8000000000000000 ≤ n ∧ n < 0x8000000000000000

instance (n : Int) : Decidable (FitsWord n) :=
  inferInstanceAs (Decidable (_ ∧ _))

namespace Word

/-- The 64-bit number that stands for an integer, if it has room. -/
def ofInt? (n : Int) : Option Int64 :=
  if FitsWord n then some (Int64.ofInt n) else none

def add? (a b : Int64) : Option Int64 :=
  ofInt? (a.toInt + b.toInt)

def sub? (a b : Int64) : Option Int64 :=
  ofInt? (a.toInt - b.toInt)

def mul? (a b : Int64) : Option Int64 :=
  ofInt? (a.toInt * b.toInt)

end Word

end FormLetter
