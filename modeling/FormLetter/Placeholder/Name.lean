namespace FormLetter.Name

def startsWord (c : Char) : Bool :=
  c.isAlpha || c == '_'

def continuesWord (c : Char) : Bool :=
  c.isAlphanum || c == '_'

/-- Reads on in a dotted name; `atStart` says that a word has to begin here. -/
def accepts (atStart : Bool) : List Char → Bool
  | [] => !atStart
  | c :: rest =>
    if atStart then startsWord c && accepts false rest
    else if c == '.' then accepts true rest
    else continuesWord c && accepts false rest

/-- Words of ASCII letters, digits and underscores, none of which starts with a digit, joined by
dots. -/
def IsDotted (name : String) : Prop :=
  accepts true name.toList = true

instance (name : String) : Decidable (IsDotted name) :=
  inferInstanceAs (Decidable (accepts true name.toList = true))

end FormLetter.Name
