/-!
# Instants

An `Instant` is a moment in milliseconds since the beginning of 1970, universal time.  It is written
as a date and a time of day in the calendar that leaves out the leap days of three centuries in
four.
-/

namespace Trials

/-- A moment, in milliseconds since the beginning of 1970. -/
structure Instant where
  milliseconds : Int
deriving DecidableEq, Inhabited

/-- A day of the calendar. -/
structure Date where
  year : Int
  /-- The month, from one. -/
  month : Nat
  /-- The day of the month, from one. -/
  day : Nat
deriving DecidableEq

/-- The date that lies some days after the first of March of the year zero.  Years are taken to
begin in March, so that a leap day is the last day of its year. -/
def Date.ofMarchDays (days : Int) : Date :=
  let era := days / 146097
  let dayOfEra := (days % 146097).toNat
  let yearOfEra := (dayOfEra - dayOfEra / 1460 + dayOfEra / 36524 - dayOfEra / 146096) / 365
  let dayOfYear := dayOfEra - (365 * yearOfEra + yearOfEra / 4 - yearOfEra / 100)
  let fromMarch := (5 * dayOfYear + 2) / 153
  let month := if fromMarch < 10 then fromMarch + 3 else fromMarch - 9
  { year := era * 400 + yearOfEra + if month ≤ 2 then 1 else 0
    month
    day := dayOfYear - (153 * fromMarch + 2) / 5 + 1 }

namespace Instant

/-- The milliseconds of a day. -/
def perDay : Int := 86400000

/-- The date of a moment. -/
def date (t : Instant) : Date := .ofMarchDays (t.milliseconds / perDay + 719468)

/-- The milliseconds since the beginning of the day. -/
def ofDay (t : Instant) : Nat := (t.milliseconds % perDay).toNat

/-- A number with at least the given number of digits. -/
def padded (width n : Nat) : String :=
  let digits := Nat.toDigits 10 n
  String.ofList (List.replicate (width - digits.length) '0' ++ digits)

/-- A year: four digits, and a sign as well outside of the years zero to 9999. -/
def yearText (year : Int) : String :=
  if 0 ≤ year ∧ year ≤ 9999 then padded 4 year.toNat
  else (if year < 0 then "-" else "+") ++ padded 4 year.natAbs

/-- Hours, minutes and seconds of the moment with a separator between them. -/
def clock (separator : String) (t : Instant) : String :=
  let seconds := t.ofDay / 1000
  padded 2 (seconds / 3600) ++ separator ++ padded 2 (seconds / 60 % 60) ++ separator
    ++ padded 2 (seconds % 60)

/-- Year, month and day of the moment with a separator between them. -/
def day (separator : String) (t : Instant) : String :=
  yearText t.date.year ++ separator ++ padded 2 t.date.month ++ separator ++ padded 2 t.date.day

/-- The moment as a time stamp such as `2024-03-09T14:05:01+00:00`, with milliseconds unless they
are zero. -/
def stamp (t : Instant) : String :=
  let rest := t.ofDay % 1000
  t.day "-" ++ "T" ++ t.clock ":" ++ (if rest = 0 then "" else "." ++ padded 3 rest) ++ "+00:00"

/-- The moment as part of a file name, such as `20240309T140501.000Z`. -/
def tag (t : Instant) : String :=
  t.day "" ++ "T" ++ t.clock "" ++ "." ++ padded 3 (t.ofDay % 1000) ++ "Z"

end Instant

end Trials
