import BufferSync.Operation

/-!
# Calendar time

An instant is a number of seconds before or after the start of the year 1970, with a fraction in
nanoseconds.  Its text is the date in the Gregorian calendar, carried back to all earlier years, and
the time of day with milliseconds, the rest of the fraction cut off.  The calendar reaches from
`firstYear` to `lastYear`; to write an instant outside of these years is a trap.

Days are turned into dates by counting years from the first of March: then the leap day is the last
day of a year, four hundred years are a cycle of 146097 days, and the day of the year determines
month and day by a fixed rule.
-/

namespace BufferSync.Console

/-- Nanoseconds in a second. -/
def secondNanos : Nat := 1000000000

/-- A point in time. -/
structure Instant where
  /-- Whole seconds since the start of 1970, rounded down. -/
  seconds : Int
  /-- Nanoseconds to be added. -/
  nanos : Nat
  nanos_lt : nanos < secondNanos
deriving DecidableEq, Repr

/-- The instant `nanos` nanoseconds after the second `seconds`; full seconds are carried. -/
def Instant.after (seconds : Int) (nanos : Nat) : Instant where
  seconds := seconds + (nanos / secondNanos : Nat)
  nanos := nanos % secondNanos
  nanos_lt := Nat.mod_lt _ (by decide)

/-- A day of the calendar. -/
structure Date where
  /-- Year; the year before year one is year zero. -/
  year : Int
  /-- Month, from one to twelve. -/
  month : Nat
  /-- Day of the month, from one on. -/
  day : Nat
deriving DecidableEq, Repr

/-- Days from the first of March of year zero to the first of January of 1970. -/
def epochDay : Int := 719468

/-- Days in four hundred years. -/
def cycleDays : Nat := 146097

/-- The date that lies `days` days after the first of January of 1970. -/
def Date.ofDays (days : Int) : Date :=
  let day := days + epochDay
  let cycle := day.fdiv cycleDays
  let inCycle := (day.fmod cycleDays).toNat
  let yearInCycle := (inCycle - inCycle / 1460 + inCycle / 36524 - inCycle / 146096) / 365
  let inYear := inCycle - (365 * yearInCycle + yearInCycle / 4 - yearInCycle / 100)
  let marchMonth := (5 * inYear + 2) / 153
  let month := if marchMonth < 10 then marchMonth + 3 else marchMonth - 9
  { year := 400 * cycle + yearInCycle + (if month ≤ 2 then 1 else 0)
    month
    day := inYear - (153 * marchMonth + 2) / 5 + 1 }

/-- Decimal digits of `n` with zeros in front up to `width` digits. -/
def padded (width n : Nat) : String :=
  let digits := Nat.toDigits 10 n
  String.ofList (List.replicate (width - digits.length) '0' ++ digits)

/-- Four digits for the years from 0 to 9999, a sign and at least four digits for the others. -/
def yearText (year : Int) : String :=
  if year < 0 then "-" ++ padded 4 year.natAbs
  else if year ≤ 9999 then padded 4 year.natAbs
  else "+" ++ padded 4 year.natAbs

/-- The date as year, month and day. -/
def Date.text (d : Date) : String :=
  yearText d.year ++ "-" ++ padded 2 d.month ++ "-" ++ padded 2 d.day

/-- The first year of the calendar. -/
def firstYear : Int := -262143

/-- The last year of the calendar. -/
def lastYear : Int := 262142

/-- The day on which the instant lies. -/
def Instant.date (t : Instant) : Date :=
  Date.ofDays (t.seconds.fdiv 86400)

/-- Hours, minutes, seconds and milliseconds of the day. -/
def Instant.clockText (t : Instant) : String :=
  let second := (t.seconds.fmod 86400).toNat
  padded 2 (second / 3600) ++ ":" ++ padded 2 (second / 60 % 60) ++ ":" ++
    padded 2 (second % 60) ++ "." ++ padded 3 (t.nanos / 1000000)

/-- Date and time of day, if the calendar reaches the instant. -/
def Instant.text (t : Instant) : Outcome String :=
  if firstYear ≤ t.date.year ∧ t.date.year ≤ lastYear then
    .ok (t.date.text ++ " " ++ t.clockText)
  else
    .trapped .outsideCalendar

example : Date.ofDays 0 = ⟨1970, 1, 1⟩ := by decide

example : Date.ofDays 11016 = ⟨2000, 2, 29⟩ := by decide

example : Date.ofDays (-719529) = ⟨-1, 12, 31⟩ := by decide

example : (Instant.after 8210266876799 0).date = ⟨lastYear, 12, 31⟩ := by decide

example : (Instant.after (-8334601228800) 0).date = ⟨firstYear, 1, 1⟩ := by decide

end BufferSync.Console
