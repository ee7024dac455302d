namespace Remedy.Calendar

/-- The number of a day of the Gregorian calendar; years begin in March here, so that a leap day is
the last one of its year. -/
def dayNumber (year : Int) (month day : Nat) : Int :=
  let y : Int := if month ≤ 2 then year - 1 else year
  let era := y.fdiv 400
  let inEra := y - era * 400
  let shifted : Nat := (month + 9) % 12
  let inYear : Int := ((153 * shifted + 2) / 5 : Nat) + (day : Int) - 1
  era * 146097 + inEra * 365 + inEra / 4 - inEra / 100 + inYear - 719468

def ofDayNumber (n : Int) : Int × Nat × Nat :=
  let z := n + 719468
  let era := z.fdiv 146097
  let inEra := (z - era * 146097).toNat
  let yearOfEra := (inEra - inEra / 1460 + inEra / 36524 - inEra / 146096) / 365
  let inYear := inEra - (365 * yearOfEra + yearOfEra / 4 - yearOfEra / 100)
  let shifted := (5 * inYear + 2) / 153
  let day := inYear - (153 * shifted + 2) / 5 + 1
  let month := if shifted < 10 then shifted + 3 else shifted - 9
  (yearOfEra + era * 400 + (if month ≤ 2 then 1 else 0), month, day)

def isLeap (year : Int) : Bool := year % 4 == 0 && (year % 100 != 0 || year % 400 == 0)

def daysIn (year : Int) (month : Nat) : Nat :=
  if month = 2 then if isLeap year then 29 else 28
  else if month ∈ [4, 6, 9, 11] then 30 else 31

def second : Int := 1000000000

structure Moment where
  year : Int
  month : Nat
  day : Nat
  hour : Nat
  minute : Nat
  second : Nat
  nanosecond : Nat
deriving DecidableEq, Repr

namespace Moment

def ofNanoseconds (n : Int) : Moment :=
  let seconds := n.fdiv Calendar.second
  let days := seconds.fdiv 86400
  let inDay := (seconds - days * 86400).toNat
  let (year, month, day) := ofDayNumber days
  { year, month, day, hour := inDay / 3600, minute := inDay / 60 % 60, second := inDay % 60
    nanosecond := (n - seconds * Calendar.second).toNat }

def seconds (m : Moment) : Int :=
  dayNumber m.year m.month m.day * 86400 + (m.hour * 3600 + m.minute * 60 + m.second : Nat)

def nanoseconds (m : Moment) : Int := m.seconds * Calendar.second + m.nanosecond

def weekday (m : Moment) : Nat := ((dayNumber m.year m.month m.day + 4) % 7).toNat

def dayOfYear (m : Moment) : Nat :=
  (dayNumber m.year m.month m.day - dayNumber m.year 1 1).toNat

/-- The week of the year where weeks begin on Monday and the first one has a Thursday, and the year
to which the week belongs. -/
def week (m : Moment) : Nat × Int :=
  let day := dayNumber m.year m.month m.day
  let fromMonday := (day + 3) % 7
  let thursday := day - fromMonday + 3
  let (year, _, _) := ofDayNumber thursday
  (((thursday - dayNumber year 1 1) / 7 + 1).toNat, year)

end Moment

def months : List String :=
  ["January", "February", "March", "April", "May", "June", "July", "August", "September", "October",
    "November", "December"]

def weekdays : List String :=
  ["Sunday", "Monday", "Tuesday", "Wednesday", "Thursday", "Friday", "Saturday"]

def short (name : String) : String := String.ofList (name.toList.take 3)

example : Moment.ofNanoseconds (951782400 * second) = ⟨2000, 2, 29, 0, 0, 0, 0⟩ := by decide

example : dayNumber 1970 1 1 = 0 := by decide

end Remedy.Calendar
