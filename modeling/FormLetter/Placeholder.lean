import FormLetter.Text.Blank

/-!
# Placeholders

A token is a body without braces between double braces. No two tokens overlap, so cutting a text
from left to right finds all of them, and the segments put together again are the text.
-/

namespace FormLetter

/-- A stretch of template text: one character that stands for itself, or a token with its body. -/
inductive Segment where
  | literal (c : Char)
  | token (body : List Char)
  deriving DecidableEq

namespace Segment

def tokenText (body : List Char) : List Char :=
  '{' :: '{' :: (body ++ ['}', '}'])

def source : Segment → List Char
  | .literal c => [c]
  | .token body => tokenText body

def isPlain (c : Char) : Bool :=
  c != '{' && c != '}'

/-- The body of the token with which the text begins, and the text after that token. -/
def tokenAt? : List Char → Option (List Char × List Char)
  | '{' :: '{' :: text =>
    match text.dropWhile isPlain with
    | '}' :: '}' :: rest => some (text.takeWhile isPlain, rest)
    | _ => none
  | _ => none

theorem eq_of_tokenAt? {text body rest : List Char} (h : tokenAt? text = some (body, rest)) :
    text = tokenText body ++ rest := by
  unfold tokenAt? at h
  split at h
  next inner =>
    split at h
    next after hdrop =>
      cases h
      have happend := List.takeWhile_append_dropWhile (p := isPlain) (l := inner)
      rw [hdrop] at happend
      simp [tokenText, happend]
    next => cases h
  next => cases h

theorem length_lt_of_tokenAt? {text body rest : List Char}
    (h : tokenAt? text = some (body, rest)) : rest.length < text.length := by
  rw [eq_of_tokenAt? h]
  simp [tokenText]
  omega

/-- Cuts a text into its segments, the leftmost token first. -/
def scan : List Char → List Segment
  | [] => []
  | c :: text =>
    match _h : tokenAt? (c :: text) with
    | some (body, rest) => .token body :: scan rest
    | none => .literal c :: scan text
termination_by text => text.length
decreasing_by
  · exact length_lt_of_tokenAt? _h
  · exact Nat.lt_succ_self _

theorem flatMap_source_scan (text : List Char) : (scan text).flatMap source = text := by
  fun_induction scan text with
  | case1 => rfl
  | case2 c text body rest h ih =>
    rw [List.flatMap_cons, ih]
    exact (eq_of_tokenAt? h).symm
  | case3 c text h ih => exact congrArg (c :: ·) ih

end Segment

/-- A token as a template author means it: the name, the default after the first bar, and the token
itself. -/
structure Placeholder where
  token : String
  name : String
  default? : Option String
  deriving DecidableEq

namespace Placeholder

def isNameChar (c : Char) : Bool :=
  c != '|'

def ofBody (body : List Char) : Placeholder where
  token := String.ofList (Segment.tokenText body)
  name := String.ofList (trimChars (body.takeWhile isNameChar))
  default? :=
    match body.dropWhile isNameChar with
    | [] => none
    | _ :: clause => some (String.ofList (trimChars clause))

def ofSegment? : Segment → Option Placeholder
  | .literal _ => none
  | .token body => some (ofBody body)

/-- The placeholders of a text, in the order of their positions. -/
def all (text : String) : List Placeholder :=
  (Segment.scan text.toList).filterMap ofSegment?

end Placeholder

end FormLetter
