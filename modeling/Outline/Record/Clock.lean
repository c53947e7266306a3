import Outline.Text.Basic

/-!
# Clock readings

A moment, given by the microseconds since the first of January 1970, as a date and a time of day in
universal time.
-/
namespace Outline.Record.Clock

/-- Year, month and day that lie a number of days behind the first of January 1970. The count runs
from the first of March of the year 0, in spans of 400 years of the same length. -/
def dateOfDays (days : Nat) : Nat × Nat × Nat :=
  let z := days + 719468
  let span := z / 146097
  let inSpan := z % 146097
  let year := (inSpan - inSpan / 1460 + inSpan / 36524 - inSpan / 146096) / 365
  let inYear := inSpan - (365 * year + year / 4 - year / 100)
  let month := (5 * inYear + 2) / 153
  let day := inYear - (153 * month + 2) / 5 + 1
  if month < 10 then (400 * span + year, month + 3, day)
  else (400 * span + year + 1, month - 9, day)

def padded (width n : Nat) : Text :=
  let ds := Text.ofNat n
  List.replicate (width - ds.length) '0' ++ ds

def stamp (microseconds : Nat) : Text :=
  let seconds := microseconds / 1000000
  let (year, month, day) := dateOfDays (seconds / 86400)
  let fraction := microseconds % 1000000
  Text.join ['-'] [padded 4 year, padded 2 month, padded 2 day] ++ 'T' ::
    Text.join [':'] [padded 2 (seconds / 3600 % 24), padded 2 (seconds / 60 % 60),
      padded 2 (seconds % 60)] ++
    (if fraction = 0 then [] else '.' :: padded 6 fraction) ++ ['Z']

end Outline.Record.Clock
