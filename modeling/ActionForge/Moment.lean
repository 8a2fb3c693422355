/-!
# Moments

A moment in seconds since the start of 1970, UTC, as text: `2024-05-01T12:00:00Z`. Days are counted from
the first of March of the year 0, so that a leap day is the last day of its year.
-/

namespace ActionForge.Moment

/-- Days from the first of March of the year 0 to the start of 1970. -/
def epochDay : Int := 719468

/-- Days in four hundred years. -/
def eraDays : Int := 146097

/-- The years of an era that lie before a day of it. -/
def yearOfEra (day : Int) : Int := (day - day / 1460 + day / 36524 - day / 146096) / 365

/-- The months, from March on, that lie before a day of a year. -/
def monthIndex (day : Int) : Int := (5 * day + 2) / 153

/-- Year, month and day of a day since the start of 1970. -/
def date (day : Int) : Int × Int × Int :=
  let day := day + epochDay
  let era := Int.fdiv day eraDays
  let day := Int.fmod day eraDays
  let year := yearOfEra day
  let day := day - (365 * year + year / 4 - year / 100)
  let month := monthIndex day
  let dayOfMonth := day - (153 * month + 2) / 5 + 1
  if month < 10 then (400 * era + year, month + 3, dayOfMonth)
  else (400 * era + year + 1, month - 9, dayOfMonth)

/-- A number with as many digits as asked for at least. -/
def digits (count : Nat) (n : Int) : String :=
  let text := Nat.toDigits 10 n.toNat
  String.ofList (List.replicate (count - text.length) '0' ++ text)

/-- A moment as text. -/
def text (seconds : Int) : String :=
  let (year, month, day) := date (Int.fdiv seconds 86400)
  let second := Int.fmod seconds 86400
  digits 4 year ++ "-" ++ digits 2 month ++ "-" ++ digits 2 day ++ "T" ++ digits 2 (second / 3600) ++ ":" ++
    digits 2 (second / 60 % 60) ++ ":" ++ digits 2 (second % 60) ++ "Z"

end ActionForge.Moment
