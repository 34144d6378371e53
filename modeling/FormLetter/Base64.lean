namespace FormLetter.Base64

/-- The two symbols that follow the letters and the digits. -/
structure Alphabet where
  symbol62 : Char
  symbol63 : Char

namespace Alphabet

def standard : Alphabet :=
  ⟨'+', '/'⟩

def urlSafe : Alphabet :=
  ⟨'-', '_'⟩

def symbol (alphabet : Alphabet) (n : Nat) : Char :=
  if n < 26 then Char.ofNat (0x41 + n)
  else if n < 52 then Char.ofNat (0x61 + (n - 26))
  else if n < 62 then Char.ofNat (0x30 + (n - 52))
  else if n = 62 then alphabet.symbol62
  else alphabet.symbol63

def value? (alphabet : Alphabet) (c : Char) : Option Nat :=
  if c.isUpper then some (c.toNat - 0x41)
  else if c.isLower then some (c.toNat - 0x61 + 26)
  else if c.isDigit then some (c.toNat - 0x30 + 52)
  else if c = alphabet.symbol62 then some 62
  else if c = alphabet.symbol63 then some 63
  else none

end Alphabet

/-- Each three bytes as four symbols, without padding at the end. -/
def encode (alphabet : Alphabet) : List UInt8 → List Char
  | [] => []
  | [a] =>
    let n := a.toNat * 16
    [alphabet.symbol (n / 64), alphabet.symbol (n % 64)]
  | [a, b] =>
    let n := (a.toNat * 256 + b.toNat) * 4
    [alphabet.symbol (n / 4096), alphabet.symbol (n / 64 % 64), alphabet.symbol (n % 64)]
  | a :: b :: c :: bytes =>
    let n := (a.toNat * 256 + b.toNat) * 256 + c.toNat
    alphabet.symbol (n / 262144) :: alphabet.symbol (n / 4096 % 64) ::
      alphabet.symbol (n / 64 % 64) :: alphabet.symbol (n % 64) :: encode alphabet bytes

/-- Reads symbols back; bits that no byte takes up have to be zero. -/
def decode? (alphabet : Alphabet) : List Char → Option (List UInt8)
  | [] => some []
  | [_] => none
  | [w, x] => do
    let n := (← alphabet.value? w) * 64 + (← alphabet.value? x)
    if n % 16 = 0 then some [UInt8.ofNat (n / 16)] else none
  | [w, x, y] => do
    let n := ((← alphabet.value? w) * 64 + (← alphabet.value? x)) * 64 + (← alphabet.value? y)
    if n % 4 = 0 then some [UInt8.ofNat (n / 4 / 256), UInt8.ofNat (n / 4 % 256)] else none
  | w :: x :: y :: z :: text => do
    let n :=
      (((← alphabet.value? w) * 64 + (← alphabet.value? x)) * 64 + (← alphabet.value? y)) * 64 +
        (← alphabet.value? z)
    let bytes ← decode? alphabet text
    some (UInt8.ofNat (n / 65536) :: UInt8.ofNat (n / 256 % 256) :: UInt8.ofNat (n % 256) :: bytes)

end FormLetter.Base64
