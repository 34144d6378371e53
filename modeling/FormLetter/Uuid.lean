import FormLetter.Text.Hex

namespace FormLetter

/-- Sixteen bytes that tell one thing from all others. -/
structure Uuid where
  bytes : List UInt8
  length_bytes : bytes.length = 16

namespace Uuid

/-- Hexadecimal digits in groups of eight, four, four, four and twelve. -/
def text (uuid : Uuid) : String :=
  let digits := uuid.bytes.flatMap hexPair
  String.ofList
    (digits.take 8 ++ '-' :: (digits.drop 8).take 4 ++ '-' :: (digits.drop 12).take 4 ++
      '-' :: (digits.drop 16).take 4 ++ '-' :: digits.drop 20)

/-- The identifier made of random bytes, marked as such in version and variant. -/
def ofRandom (byte : Nat → UInt8) : Uuid where
  bytes := (List.range 16).map fun i =>
    if i = 6 then byte i % 16 + 0x40
    else if i = 8 then byte i % 64 + 0x80
    else byte i
  length_bytes := by simp

end Uuid

end FormLetter
