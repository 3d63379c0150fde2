/-!
Points in time as RFC 3339 text in UTC.
-/

namespace JobShell.Log

/-- A number in decimal digits, filled up with zeros to a width. -/
def zeroPadded (width n : Nat) : String :=
  let digits := toString n
  "".pushn '0' (width - digits.length) ++ digits

/-- Year, month and day of a day counted from 1970-01-01; years are taken to begin in March, so that
a leap day ends its year. -/
def civilDate (day : Nat) : Nat × Nat × Nat :=
  let z := day + 719468
  let era := z / 146097
  let dayOfEra := z % 146097
  let yearOfEra := (dayOfEra - dayOfEra / 1460 + dayOfEra / 36524 - dayOfEra / 146096) / 365
  let dayOfYear := dayOfEra - (365 * yearOfEra + yearOfEra / 4 - yearOfEra / 100)
  let shifted := (5 * dayOfYear + 2) / 153
  let month := if shifted < 10 then shifted + 3 else shifted - 9
  let year := yearOfEra + era * 400 + (if month ≤ 2 then 1 else 0)
  (year, month, dayOfYear - (153 * shifted + 2) / 5 + 1)

/-- The text of a time given in nanoseconds since 1970, with microseconds. -/
def timestamp (nanoseconds : Nat) : String :=
  let micros := nanoseconds / 1000
  let seconds := micros / 1000000
  let (year, month, day) := civilDate (seconds / 86400)
  let date := s!"{zeroPadded 4 year}-{zeroPadded 2 month}-{zeroPadded 2 day}"
  let hour := zeroPadded 2 (seconds / 3600 % 24)
  let minute := zeroPadded 2 (seconds / 60 % 60)
  let second := zeroPadded 2 (seconds % 60)
  s!"{date}T{hour}:{minute}:{second}.{zeroPadded 6 (micros % 1000000)}Z"

end JobShell.Log
