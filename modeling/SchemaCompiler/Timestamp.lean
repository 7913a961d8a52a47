/-!
# Timestamps

A moment in universal time and its text `year-month-dayThour:minute:secondZ`,
in the proleptic Gregorian calendar.
-/

namespace SchemaCompiler

/-- Seconds since 1970 and the nanoseconds past them. A leap second is the last
second of a minute with a thousand million nanoseconds or more. -/
structure Timestamp where
  seconds : Int
  nanoseconds : Nat := 0
deriving DecidableEq, Repr

structure Date where
  year : Int
  month : Nat
  day : Nat
deriving DecidableEq, Repr

/-- The date so many days after the first of January 1970. Years are counted from
March, in cycles of 400 years, so that a leap day is the last of its year. -/
def Date.ofDays (days : Int) : Date :=
  let shifted := days + 719468
  let cycle := shifted.fdiv 146097
  let dayOfCycle := (shifted.fmod 146097).toNat
  let yearOfCycle :=
    (dayOfCycle - dayOfCycle / 1460 + dayOfCycle / 36524 - dayOfCycle / 146096) / 365
  let dayOfYear := dayOfCycle - (365 * yearOfCycle + yearOfCycle / 4 - yearOfCycle / 100)
  let monthFromMarch := (5 * dayOfYear + 2) / 153
  let month := if monthFromMarch < 10 then monthFromMarch + 3 else monthFromMarch - 9
  { year := cycle * 400 + yearOfCycle + (if month ≤ 2 then 1 else 0)
    month
    day := dayOfYear - (153 * monthFromMarch + 2) / 5 + 1 }

/-- Decimal digits, with zeros in front up to `width` digits. -/
def paddedDecimal (width n : Nat) : String :=
  let digits := Nat.toDigits 10 n
  .ofList (List.replicate (width - digits.length) '0' ++ digits)

/-- Four digits at least, with a sign outside the years 0 to 9999. -/
def yearText (year : Int) : String :=
  if 0 ≤ year ∧ year ≤ 9999 then paddedDecimal 4 year.toNat
  else (if year < 0 then "-" else "+") ++ paddedDecimal 4 year.natAbs

def Date.text (date : Date) : String :=
  yearText date.year ++ "-" ++ paddedDecimal 2 date.month ++ "-" ++ paddedDecimal 2 date.day

def Timestamp.text (moment : Timestamp) : String :=
  let secondOfDay := (moment.seconds.fmod 86400).toNat
  let leap := if moment.nanoseconds < 1000000000 then 0 else 1
  (Date.ofDays (moment.seconds.fdiv 86400)).text ++ "T" ++
    paddedDecimal 2 (secondOfDay / 3600) ++ ":" ++
    paddedDecimal 2 (secondOfDay / 60 % 60) ++ ":" ++
    paddedDecimal 2 (secondOfDay % 60 + leap) ++ "Z"

end SchemaCompiler
