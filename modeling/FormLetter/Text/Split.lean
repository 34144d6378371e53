namespace FormLetter

/-- The text before the last occurrence of a character, and the text after it. -/
def splitAtLast? (mark : Char) (text : List Char) : Option (List Char × List Char) :=
  match text.reverse.dropWhile (· != mark) with
  | [] => none
  | _ :: before => some (before.reverse, (text.reverse.takeWhile (· != mark)).reverse)

/-- The text before the first occurrence of a character, and the text after it; all of it comes
before where there is none. -/
def splitAtFirst (mark : Char) (text : List Char) : List Char × List Char :=
  (text.takeWhile (· != mark), (text.dropWhile (· != mark)).drop 1)

end FormLetter
