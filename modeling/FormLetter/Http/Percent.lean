import FormLetter.Text.Hex
import FormLetter.Text.Utf8

namespace FormLetter.Http.Percent

/-- A percent sign with two hexadecimal digits stands for a byte; every other character stands for
itself. -/
def decode : List Char → List UInt8
  | [] => []
  | '%' :: high :: low :: rest =>
    match hexValue? high, hexValue? low with
    | some high, some low => UInt8.ofNat (16 * high + low) :: decode rest
    | _, _ => String.utf8EncodeChar '%' ++ decode (high :: low :: rest)
  | c :: rest => String.utf8EncodeChar c ++ decode rest

def text? (encoded : List Char) : Option String :=
  Utf8.decode? (decode encoded)

/-- The text of a part of a form, in which a plus sign stands for a space. Of bytes that spell no
text the ASCII characters are kept. -/
def formText (encoded : List Char) : String :=
  let bytes := decode (encoded.map fun c => if c == '+' then ' ' else c)
  (Utf8.decode? bytes).getD <| String.ofList <| bytes.map fun byte =>
    if byte < 0x80 then Char.ofNat byte.toNat else '\uFFFD'

end FormLetter.Http.Percent
