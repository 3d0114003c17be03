import ImagePreload.Decimal.Display

/-!
# Dates and times

Days are counted in the Gregorian calendar, which is taken to reach back without a break. A time
may carry its distance from universal time.
-/

namespace ImagePreload

structure Date where
  year : Nat
  month : Nat
  day : Nat
  deriving DecidableEq, Repr

/-- A date and a time of the day, to the microsecond, with the offset from universal time in
seconds when it is known. -/
structure DateTime where
  date : Date
  hour : Nat
  minute : Nat
  second : Nat
  microsecond : Nat
  offset : Option Int
  deriving DecidableEq, Repr

namespace Calendar

def isLeap (year : Nat) : Bool := year % 4 == 0 && (year % 100 != 0 || year % 400 == 0)

def daysInMonth (year month : Nat) : Nat :=
  if month == 2 then if isLeap year then 29 else 28
  else if month == 4 || month == 6 || month == 9 || month == 11 then 30
  else 31

/-- Days before the first of January of a year, counted from the year 1. -/
def daysBeforeYear (year : Nat) : Nat :=
  let y := year - 1
  365 * y + y / 4 - y / 100 + y / 400

/-- The number of a day, the first of January of the year 1 being number 1. -/
def dayNumber (d : Date) : Nat :=
  let before := (List.range (d.month - 1)).foldl (fun n m => n + daysInMonth d.year (m + 1)) 0
  daysBeforeYear d.year + before + d.day

private def monthOf (year : Nat) : List Nat → Nat → Nat × Nat
  | [], day => (12, day)
  | m :: ms, day =>
    let n := daysInMonth year m
    if day ≤ n then (m, day) else monthOf year ms (day - n)

/-- The day with a given number. -/
def ofDayNumber (n : Nat) : Date :=
  let guess := (n - 1) * 400 / 146097 + 1
  let year :=
    if daysBeforeYear guess ≥ n then guess - 1
    else if daysBeforeYear (guess + 1) < n then guess + 1
    else guess
  let (month, day) := monthOf year (List.range' 1 12) (n - daysBeforeYear year)
  ⟨year, month, day⟩

def isValidDate (year month day : Nat) : Bool :=
  1 ≤ year && year ≤ 9999 && 1 ≤ month && month ≤ 12 && 1 ≤ day && day ≤ daysInMonth year month

/-- The day number of the start of the epoch. -/
def epochDay : Nat := 719163

/-- The day of the week, counted from Monday. -/
def weekday (d : Date) : Nat := (dayNumber d + 6) % 7

private def padded (count n : Nat) : String :=
  let ds := Decimal.digitsOf n
  .ofList (Decimal.zeros (count - ds.length) ++ ds)

def dateText (d : Date) : String :=
  padded 4 d.year ++ "-" ++ padded 2 d.month ++ "-" ++ padded 2 d.day

/-- An offset as hours and minutes, with seconds only when there are some. -/
def offsetText (offset : Int) : String :=
  let n := offset.natAbs
  (if offset < 0 then "-" else "+") ++ padded 2 (n / 3600) ++ ":" ++ padded 2 (n / 60 % 60)
    ++ (if n % 60 == 0 then "" else ":" ++ padded 2 (n % 60))

def clockText (t : DateTime) : String :=
  padded 2 t.hour ++ ":" ++ padded 2 t.minute ++ ":" ++ padded 2 t.second
    ++ (if t.microsecond == 0 then "" else "." ++ padded 6 t.microsecond)
    ++ (t.offset.map offsetText).getD ""

def dateTimeText (t : DateTime) : String := dateText t.date ++ " " ++ clockText t

def dayNames : List String := ["Mon", "Tue", "Wed", "Thu", "Fri", "Sat", "Sun"]

def monthNames : List String :=
  ["Jan", "Feb", "Mar", "Apr", "May", "Jun", "Jul", "Aug", "Sep", "Oct", "Nov", "Dec"]

/-- Day of the week, month, day, time and year in a line of fixed width. -/
def longText (t : DateTime) : String :=
  let day := toString t.date.day
  (dayNames[weekday t.date]?.getD "") ++ " " ++ (monthNames[t.date.month - 1]?.getD "") ++ " "
    ++ (if day.length < 2 then " " ++ day else day) ++ " "
    ++ padded 2 t.hour ++ ":" ++ padded 2 t.minute ++ ":" ++ padded 2 t.second ++ " "
    ++ toString t.date.year

/-- Seconds of universal time since the start of the epoch, for a time that is taken to be in
universal time unless it says otherwise. -/
def epochSeconds (t : DateTime) : Int :=
  ((dayNumber t.date : Int) - epochDay) * 86400 + (t.hour * 3600 + t.minute * 60 + t.second : Nat)
    - t.offset.getD 0

/-- The time a count of seconds after the start of the epoch, if it lies in the years 1 to 9999. -/
def ofEpochSeconds? (seconds : Int) : Option DateTime :=
  let day := Int.fdiv seconds 86400 + epochDay
  let rest := (Int.fmod seconds 86400).toNat
  if day < 1 || day > 3652059 then none
  else some ⟨ofDayNumber day.toNat, rest / 3600, rest / 60 % 60, rest % 60, 0, none⟩

end Calendar

end ImagePreload
