namespace RunGate.Calendar

/-- A year has 366 days when 4 divides it, unless 100 does and 400 does not. -/
def isLeap (year : Int) : Bool :=
  year % 4 == 0 && (year % 100 != 0 || year % 400 == 0)

/-- The days of a month, from 1 for January to 12 for December; none for other numbers. -/
def daysInMonth (year : Int) (month : Nat) : Nat :=
  match month with
  | 1 | 3 | 5 | 7 | 8 | 10 | 12 => 31
  | 4 | 6 | 9 | 11 => 30
  | 2 => if isLeap year then 29 else 28
  | _ => 0

/-- A year, a month from 1 to 12 and a day of the month. -/
structure Date where
  year : Int
  month : Nat
  day : Nat
deriving DecidableEq

namespace Date

def isReal (date : Date) : Bool :=
  1 ≤ date.day && date.day ≤ daysInMonth date.year date.month

/-- The days of the years before this one, counted from the first day of year 0. -/
def daysBeforeYear (year : Int) : Int :=
  let past := year - 1
  365 * year + past / 4 - past / 100 + past / 400 + 1

def daysBeforeMonth (year : Int) (month : Nat) : Nat :=
  (List.range month).foldl (fun days month => days + daysInMonth year month) 0

/-- Day number: 0 is the first day of year 0. -/
def number (date : Date) : Int :=
  daysBeforeYear date.year + daysBeforeMonth date.year date.month + (date.day - 1 : Int)

/-- Split the number of a day within a year, from 0, into month and day. -/
def splitYearDay (year : Int) (month : Nat) (left : Nat) : Nat → Nat × Nat
  | 0 => (month, left + 1)
  | fuel + 1 =>
    let length := daysInMonth year month
    if left < length then (month, left + 1)
    else splitYearDay year (month + 1) (left - length) fuel

/-- The date with this day number. The estimate of the year is at most one too high. -/
def ofNumber (number : Int) : Date :=
  let guess := (400 * number) / 146097 + 1
  let year := if daysBeforeYear guess ≤ number then guess else
    if daysBeforeYear (guess - 1) ≤ number then guess - 1 else guess - 2
  let (month, day) := splitYearDay year 1 (number - daysBeforeYear year).toNat 11
  ⟨year, month, day⟩

def firstYear : Int := -262143

def lastYear : Int := 262142

/-- The day number lies in a year that a date may have. -/
def inRange (number : Int) : Bool :=
  daysBeforeYear firstYear ≤ number && number < daysBeforeYear (lastYear + 1)

end Date

end RunGate.Calendar
