namespace FormLetter

/-- A moment in Universal Time, as seconds since the start of 1970 and nanoseconds. -/
structure Timestamp where
  seconds : Int
  nanoseconds : Nat
  deriving DecidableEq

namespace Timestamp

/-- Year, month and day of the day that comes so many days after 1 March of the year 0. -/
def civil (days : Int) : Int × Nat × Nat :=
  let era := days.fdiv 146097
  let dayOfEra := (days.fmod 146097).toNat
  let yearOfEra := (dayOfEra - dayOfEra / 1460 + dayOfEra / 36524 - dayOfEra / 146096) / 365
  let dayOfYear := dayOfEra - (365 * yearOfEra + yearOfEra / 4 - yearOfEra / 100)
  let monthFromMarch := (5 * dayOfYear + 2) / 153
  let day := dayOfYear - (153 * monthFromMarch + 2) / 5 + 1
  let month := if monthFromMarch < 10 then monthFromMarch + 3 else monthFromMarch - 9
  (era * 400 + yearOfEra + (if month ≤ 2 then 1 else 0), month, day)

/-- How many days 1 January 1970 comes after 1 March of the year 0. -/
def epochDay : Int :=
  719468

def padded (width n : Nat) : List Char :=
  let digits := Nat.toDigits 10 n
  List.replicate (width - digits.length) '0' ++ digits

/-- As many groups of three digits as the fraction needs. -/
def fraction (nanoseconds : Nat) : List Char :=
  if nanoseconds = 0 then []
  else if nanoseconds % 1000000 = 0 then '.' :: padded 3 (nanoseconds / 1000000)
  else if nanoseconds % 1000 = 0 then '.' :: padded 6 (nanoseconds / 1000)
  else '.' :: padded 9 nanoseconds

/-- The form of RFC 3339, with a Z for Universal Time. -/
def text (t : Timestamp) : String :=
  let (year, month, day) := civil (t.seconds.fdiv 86400 + epochDay)
  let second := (t.seconds.fmod 86400).toNat
  String.ofList
    (padded 4 year.toNat ++ '-' :: padded 2 month ++ '-' :: padded 2 day ++
      'T' :: padded 2 (second / 3600) ++ ':' :: padded 2 (second / 60 % 60) ++
      ':' :: padded 2 (second % 60) ++ fraction t.nanoseconds ++ ['Z'])

end Timestamp

end FormLetter
