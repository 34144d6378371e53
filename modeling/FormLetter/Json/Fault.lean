namespace FormLetter.Json

/-- What is wrong with a text that is not well formed. -/
inductive SyntaxFault where
  | endInValue
  | endInList
  | endInObject
  | endInString
  | noColon
  | noListEnd
  | noObjectEnd
  | unknownWord
  | noValue
  | unknownEscape
  | badHexEscape
  | badNumber
  | numberOutOfRange
  | badCharacter
  | controlCharacter
  | keyNotString
  /-- A half of a character is spelled without the half that it needs. -/
  | loneHalf
  /-- Something else stands where the second half of a character is due. -/
  | cutHalf
  | trailingComma
  | trailingText
  | tooDeep
  deriving DecidableEq

def SyntaxFault.message : SyntaxFault → String
  | .endInValue => "EOF while parsing a value"
  | .endInList => "EOF while parsing a list"
  | .endInObject => "EOF while parsing an object"
  | .endInString => "EOF while parsing a string"
  | .noColon => "expected `:`"
  | .noListEnd => "expected `,` or `]`"
  | .noObjectEnd => "expected `,` or `\x7d`"
  | .unknownWord => "expected ident"
  | .noValue => "expected value"
  | .unknownEscape => "invalid escape"
  | .badHexEscape => "invalid escape"
  | .badNumber => "invalid number"
  | .numberOutOfRange => "number out of range"
  | .badCharacter => "invalid unicode code point"
  | .controlCharacter => "control character (\\u0000-\\u001F) found while parsing a string"
  | .keyNotString => "key must be a string"
  | .loneHalf => "lone leading surrogate in hex escape"
  | .cutHalf => "unexpected end of hex escape"
  | .trailingComma => "trailing comma"
  | .trailingText => "trailing characters"
  | .tooDeep => "recursion limit exceeded"

/-- A fault that stops the reading of a node, and whether the node ends where the fault shows. -/
structure Stop where
  fault : SyntaxFault
  atEnd : Bool
  deriving DecidableEq

end FormLetter.Json
