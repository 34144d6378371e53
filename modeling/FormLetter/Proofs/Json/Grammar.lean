import FormLetter.Json.Node

/-!
# The grammar of JSON

What a text has to look like to spell a node, rule by rule as the standard has it. A rule relates a
text to what its beginning spells and to what is left after that. The grammar sets no limits on
depth or on numbers, and leaves no choice: a character that an escape spells in digits is spelled
as in UTF-16, so a half of a character spells nothing without the other half.
-/

namespace FormLetter.Json.Grammar

/-! ## Strings -/

/-- The letters of escapes, each with the character that it stands for. -/
def escapes : List (Char × Char) :=
  [('"', '"'), ('\\', '\\'), ('/', '/'), ('b', '\x08'), ('f', '\x0c'), ('n', '\n'), ('r', '\r'),
    ('t', '\t')]

/-- A character as it is written inside a string. -/
inductive Character : List Symbol → Char → List Symbol → Prop where
  | plain {c : Char} {rest : List Symbol} (hcontrol : 0x20 ≤ c.toNat) (hquote : c ≠ '"')
      (hbackslash : c ≠ '\\') : Character (.char c :: rest) c rest
  | escaped {letter c : Char} {rest : List Symbol} (hescape : (letter, c) ∈ escapes) :
      Character (.char '\\' :: .char letter :: rest) c rest
  | code {w x y z : Symbol} {c : Char} {rest : List Symbol}
      (hcode : hexCode? w x y z = some c.toNat) :
      Character (.char '\\' :: .char 'u' :: w :: x :: y :: z :: rest) c rest
  | halves {w x y z w' x' y' z' : Symbol} {c : Char} {rest : List Symbol}
      (hlarge : 0x10000 ≤ c.toNat)
      (hhigh : hexCode? w x y z = some (0xD800 + (c.toNat - 0x10000) / 0x400))
      (hlow : hexCode? w' x' y' z' = some (0xDC00 + (c.toNat - 0x10000) % 0x400)) :
      Character
        (.char '\\' :: .char 'u' :: w :: x :: y :: z ::
          .char '\\' :: .char 'u' :: w' :: x' :: y' :: z' :: rest) c rest

/-- The characters of a string, up to and with the closing quote. -/
inductive Characters : List Symbol → List Char → List Symbol → Prop where
  | done {rest : List Symbol} : Characters (.char '"' :: rest) [] rest
  | cons {text more rest : List Symbol} {c : Char} {chars : List Char}
      (hhead : Character text c more) (htail : Characters more chars rest) :
      Characters text (c :: chars) rest

/-! ## Numbers -/

structure Digits (digits : List Symbol) : Prop where
  ne_nil : digits ≠ []
  isDigit : ∀ digit ∈ digits, digit.isDigit = true

/-- Digits that start with a zero only if they are nothing else. -/
structure Whole (digits : List Symbol) : Prop extends Digits digits where
  eq_nil_of_zero : ∀ more, digits = .char '0' :: more → more = []

inductive Fraction : List Symbol → Option (List Symbol) → Prop where
  | absent : Fraction [] none
  | written {digits : List Symbol} (hdigits : Digits digits) :
      Fraction (.char '.' :: digits) (some digits)

inductive Signed : List Symbol → Int → Prop where
  | bare {digits : List Symbol} (hdigits : Digits digits) : Signed digits (digitsValue digits)
  | plus {digits : List Symbol} (hdigits : Digits digits) :
      Signed (.char '+' :: digits) (digitsValue digits)
  | minus {digits : List Symbol} (hdigits : Digits digits) :
      Signed (.char '-' :: digits) (-(digitsValue digits : Int))

inductive Exponent : List Symbol → Option Int → Prop where
  | absent : Exponent [] none
  | small {text : List Symbol} {exponent : Int} (hsigned : Signed text exponent) :
      Exponent (.char 'e' :: text) (some exponent)
  | capital {text : List Symbol} {exponent : Int} (hsigned : Signed text exponent) :
      Exponent (.char 'E' :: text) (some exponent)

inductive Magnitude (negative : Bool) : List Symbol → Numeral → Prop where
  | mk {whole fractionText exponentText : List Symbol} {fraction : Option (List Symbol)}
      {exponent : Option Int} (hwhole : Whole whole) (hfraction : Fraction fractionText fraction)
      (hexponent : Exponent exponentText exponent) :
      Magnitude negative (whole ++ (fractionText ++ exponentText))
        { negative
          integral := fraction.isNone && exponent.isNone
          magnitude :=
            ⟨digitsValue (whole ++ fraction.getD []),
              exponent.getD 0 - (fraction.getD []).length⟩
          exponent := exponent.getD 0 }

inductive Number : List Symbol → Numeral → Prop where
  | plain {text : List Symbol} {numeral : Numeral} (h : Magnitude false text numeral) :
      Number text numeral
  | negative {text : List Symbol} {numeral : Numeral} (h : Magnitude true text numeral) :
      Number (.char '-' :: text) numeral

/-! ## Values -/

/-- Blanks, as far as the rest. -/
def Space (text rest : List Symbol) : Prop :=
  ∃ blanks, text = blanks ++ rest ∧ ∀ blank ∈ blanks, isSpace blank = true

/-- The key of a member with the colon after it. -/
inductive Key : List Symbol → List Char → List Symbol → Prop where
  | mk {text inner more rest : List Symbol} {key : List Char}
      (hbefore : Space text (.char '"' :: inner)) (hkey : Characters inner key more)
      (hafter : Space more (.char ':' :: rest)) : Key text key rest

mutual

inductive Value : List Symbol → Node → List Symbol → Prop where
  | null {rest : List Symbol} : Value (['n', 'u', 'l', 'l'].map .char ++ rest) .null rest
  | yes {rest : List Symbol} : Value (['t', 'r', 'u', 'e'].map .char ++ rest) (.bool true) rest
  | no {rest : List Symbol} :
      Value (['f', 'a', 'l', 's', 'e'].map .char ++ rest) (.bool false) rest
  | number {text rest : List Symbol} {numeral : Numeral} (h : Number text numeral) :
      Value (text ++ rest) (.number numeral) rest
  | string {text rest : List Symbol} {chars : List Char} (h : Characters text chars rest) :
      Value (.char '"' :: text) (.string (.ok (String.ofList chars))) rest
  | emptyArray {text rest : List Symbol} (h : Space text (.char ']' :: rest)) :
      Value (.char '[' :: text) (.array [] none) rest
  | array {text rest : List Symbol} {items : List Node} (h : Items text items rest) :
      Value (.char '[' :: text) (.array items none) rest
  | emptyObject {text rest : List Symbol} (h : Space text (.char '\x7d' :: rest)) :
      Value (.char '\x7b' :: text) (.object [] none) rest
  | object {text rest : List Symbol} {members : List (Except Stop String × Node)}
      (h : Members text members rest) : Value (.char '\x7b' :: text) (.object members none) rest

/-- A value with the blanks around it. -/
inductive Element : List Symbol → Node → List Symbol → Prop where
  | mk {text inner more rest : List Symbol} {node : Node} (hbefore : Space text inner)
      (hvalue : Value inner node more) (hafter : Space more rest) : Element text node rest

/-- The items of an array, up to and with the closing bracket. -/
inductive Items : List Symbol → List Node → List Symbol → Prop where
  | last {text rest : List Symbol} {item : Node} (hitem : Element text item (.char ']' :: rest)) :
      Items text [item] rest
  | cons {text more rest : List Symbol} {item : Node} {items : List Node}
      (hitem : Element text item (.char ',' :: more)) (hitems : Items more items rest) :
      Items text (item :: items) rest

/-- The members of an object, up to and with the closing bracket. -/
inductive Members : List Symbol → List (Except Stop String × Node) → List Symbol → Prop where
  | last {text inner rest : List Symbol} {key : List Char} {value : Node}
      (hkey : Key text key inner) (hvalue : Element inner value (.char '\x7d' :: rest)) :
      Members text [(.ok (String.ofList key), value)] rest
  | cons {text inner more rest : List Symbol} {key : List Char} {value : Node}
      {members : List (Except Stop String × Node)}
      (hkey : Key text key inner) (hvalue : Element inner value (.char ',' :: more))
      (hmembers : Members more members rest) :
      Members text ((.ok (String.ofList key), value) :: members) rest

end

end Grammar

/-- A text is the node in JSON, with nothing around it but blanks. -/
def Spells (text : String) (node : Node) : Prop :=
  Grammar.Element (Symbol.ofText text) node []

end FormLetter.Json
