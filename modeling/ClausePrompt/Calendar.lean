namespace ClausePrompt

-- A day of the Gregorian calendar.
structure Date where
  year : Nat
  month : Nat
  day : Nat
  deriving DecidableEq, Repr

namespace Date

-- Years are counted from March here, so that the day that a leap year adds is the last of its
-- year. The day 0 of the count is the first of March of the year 0.
def ofDayCount (n : Nat) : Date :=
  let era := n / 146097
  let dayOfEra := n % 146097
  let yearOfEra := (dayOfEra - dayOfEra / 1460 + dayOfEra / 36524 - dayOfEra / 146096) / 365
  let dayOfYear := dayOfEra - (365 * yearOfEra + yearOfEra / 4 - yearOfEra / 100)
  let month := (5 * dayOfYear + 2) / 153
  let day := dayOfYear - (153 * month + 2) / 5 + 1
  let year := era * 400 + yearOfEra
  if month < 10 then ⟨year, month + 3, day⟩ else ⟨year + 1, month - 9, day⟩

-- The days from the first of March of the year 0 to the beginning of 1970.
def epoch : Nat := 719468

def ofDaysSince1970 (n : Nat) : Date := ofDayCount (epoch + n)

end Date

-- A time since the beginning of 1970, in whole seconds and microseconds.
structure Instant where
  seconds : Nat
  micros : Nat
  deriving DecidableEq, Repr

namespace Instant

-- A quotient rounded to the nearest whole number. A tie goes to the even one.
def roundDiv (n d : Nat) : Nat :=
  let q := n / d
  match compare (2 * (n % d)) d with
  | .lt => q
  | .gt => q + 1
  | .eq => if q % 2 = 0 then q else q + 1

-- The binary places that a double keeps of a number of seconds. Below one second it keeps more, but
-- those do not show in microseconds.
def places (millis : Nat) : Nat := 52 - (millis / 1000).log2

-- The milliseconds are rounded twice: to seconds with that many binary places, and those to
-- microseconds.
def ofMillis (millis : Nat) : Instant :=
  let unit := Nat.pow 2 (places millis)
  let binary := roundDiv (millis * unit) 1000
  let micros := roundDiv (binary % unit * 1000000) unit
  if micros < 1000000 then ⟨binary / unit, micros⟩ else ⟨binary / unit + 1, micros - 1000000⟩

def date (instant : Instant) : Date := .ofDaysSince1970 (instant.seconds / 86400)

def padded (width n : Nat) : String :=
  let digits := toString n
  String.ofList (List.replicate (width - digits.length) '0') ++ digits

-- The last year of the calendar.
def lastYear : Nat := 9999

-- Date and time of day in universal time. Microseconds are written only if there are any.
def text (instant : Instant) : String :=
  let date := instant.date
  let second := instant.seconds % 86400
  let fraction := if instant.micros = 0 then "" else "." ++ padded 6 instant.micros
  padded 4 date.year ++ "-" ++ padded 2 date.month ++ "-" ++ padded 2 date.day ++ "T" ++
    padded 2 (second / 3600) ++ ":" ++ padded 2 (second / 60 % 60) ++ ":" ++
    padded 2 (second % 60) ++ fraction ++ "+00:00"

end Instant

end ClausePrompt
