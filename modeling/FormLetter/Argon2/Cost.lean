namespace FormLetter.Argon2

/-- How earlier blocks are chosen: by what the last block holds, by position alone, or by position
in the first half of the first pass and by content from then on. -/
inductive Variant where
  | d
  | i
  | id
  deriving DecidableEq

/-- Which variant of the function is used, and how much memory, how many passes and how many lanes
it takes. -/
structure Cost where
  variant : Variant
  version : Nat
  /-- In blocks of 1024 bytes. -/
  memory : Nat
  passes : Nat
  lanes : Nat
  /-- Names a secret key; no key is known, so the name is only kept. -/
  keyId : List UInt8 := []
  /-- Goes into the digest beside the password and the salt. -/
  extra : List UInt8 := []
  deriving DecidableEq

namespace Variant

def name : Variant → String
  | .d => "argon2d"
  | .i => "argon2i"
  | .id => "argon2id"

def code : Variant → Nat
  | .d => 0
  | .i => 1
  | .id => 2

def ofName? (name : String) : Option Variant :=
  [.d, .i, .id].find? fun variant => variant.name == name

end Variant

/-- Whether the function can be worked at that cost. -/
def Cost.isFeasible (cost : Cost) : Bool :=
  [16, 19].contains cost.version && 1 ≤ cost.passes && 1 ≤ cost.lanes &&
    cost.lanes < Nat.pow 2 24 && 8 * cost.lanes ≤ cost.memory

end FormLetter.Argon2
