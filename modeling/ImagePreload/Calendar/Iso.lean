import ImagePreload.Calendar
import ImagePreload.Text.Quoted

/-!
# Standard texts of times

A time is read from a date and, behind any one character, a clock reading. Dates are written with
hyphens or without, by month and day or by week and day; clock readings with colons or without, down
to the hour, the minute, the second or a fraction of it. A distance from universal time may follow,
`Z` being none.
-/

namespace ImagePreload.Calendar

inductive IsoError where
  | malformed (text : String)
  | year (n : Nat)
  | month
  | day
  | hour
  | minute
  | second
  /-- A distance of a day or more. -/
  | offset (seconds microseconds : Int)
  deriving DecidableEq, Repr

/-- A distance by its days, seconds and microseconds. -/
def distanceText (seconds microseconds : Int) : String :=
  let all := seconds * 1000000 + microseconds
  let part (name : String) (n : Int) := if n == 0 then [] else [name ++ "=" ++ toString n]
  let parts :=
    part "days" (Int.fdiv all 86400000000)
      ++ part "seconds" (Int.fdiv (Int.fmod all 86400000000) 1000000)
      ++ part "microseconds" (Int.fmod all 1000000)
  "datetime.timedelta(" ++ ", ".intercalate parts ++ ")"

def IsoError.message : IsoError → String
  | .malformed text => "Invalid isoformat string: " ++ Text.quoted text
  | .year n => "year " ++ toString n ++ " is out of range"
  | .month => "month must be in 1..12"
  | .day => "day is out of range for month"
  | .hour => "hour must be in 0..23"
  | .minute => "minute must be in 0..59"
  | .second => "second must be in 0..59"
  | .offset seconds microseconds =>
    "offset must be a timedelta strictly between -timedelta(hours=24) and timedelta(hours=24), not "
      ++ distanceText seconds microseconds ++ "."

namespace Iso

/-- A number of exactly so many digits at the front of a text. -/
def takeDigits (count : Nat) (cs : List Char) : Option (Nat × List Char) :=
  let ds := cs.take count
  if ds.length == count && ds.all Char.isDigit then
    some (ds.foldl (fun n c => n * 10 + (c.toNat - 48)) 0, cs.drop count)
  else none

def isDigitAt (cs : List Char) (i : Nat) : Bool := (cs[i]?).any Char.isDigit

/-- How many characters belong to the date. -/
def dateLength (cs : List Char) : Nat :=
  let n := cs.length
  if n == 7 then 7
  else if cs[4]? == some '-' then
    if cs[5]? != some 'W' then 10
    else if n > 8 && cs[8]? == some '-' then if n > 10 && isDigitAt cs 10 then 8 else 10
    else 8
  else if cs[4]? == some 'W' then
    let stop := 7 + ((cs.drop 7).takeWhile Char.isDigit).length
    if stop < 9 then stop else if stop % 2 == 0 then 7 else 8
  else 8

/-- The number of the Monday of the first week of a year, the week with the first Thursday. -/
def firstMonday (year : Nat) : Nat :=
  let first := daysBeforeYear year + 1
  let day := (first + 6) % 7
  if day > 3 then first + 7 - day else first - day

/-- The day of a week of a year. -/
def ofWeek? (year week day : Nat) : Option Date :=
  let weeks := (firstMonday (year + 1) - firstMonday year) / 7
  if year < 1 || year > 9999 || week < 1 || week > weeks || day < 1 || day > 7 then none
  else some (ofDayNumber (firstMonday year + (week - 1) * 7 + (day - 1)))

/-- The date at the front of a text, of which so many characters belong to it. -/
def readDate (length : Nat) (cs : List Char) : Option Date := do
  let (year, rest) ← takeDigits 4 cs
  let hyphens := rest.head? == some '-'
  let rest := if hyphens then rest.drop 1 else rest
  match rest with
  | 'W' :: rest =>
    let (week, rest) ← takeDigits 2 rest
    if cs.length - rest.length < length then
      if hyphens && rest.head? != some '-' then failure
      let (day, _) ← takeDigits 1 (if hyphens then rest.drop 1 else rest)
      ofWeek? year week day
    else ofWeek? year week 1
  | rest =>
    let (month, rest) ← takeDigits 2 rest
    if hyphens && rest.head? != some '-' then failure
    let (day, _) ← takeDigits 2 (if hyphens then rest.drop 1 else rest)
    return ⟨year, month, day⟩

/-- Hours, minutes, seconds and microseconds, and whether something is left over. -/
structure Reading where
  hour : Nat
  minute : Nat
  second : Nat
  microsecond : Nat
  leftOver : Bool

/-- Microseconds from the digits of a fraction; what is smaller is dropped. -/
def readFraction (followed : Bool) (cs : List Char) : Option (Nat × Bool) := do
  let count := min 6 cs.length
  let (n, rest) ← takeDigits count cs
  let rest := rest.dropWhile Char.isDigit
  return (n * Nat.pow 10 (6 - count), followed || !rest.isEmpty)

/-- The numbers of a clock reading from the hours on, and what is left over. `followed` says whether
something comes behind the text. -/
def readParts (followed : Bool) :
    (position : Nat) → (colons : Bool) → List Char → Option (List Nat × Nat × Bool)
  | 0, _, cs => do
    let (fraction, leftOver) ← readFraction followed cs
    return ([], fraction, leftOver)
  | more + 1, colons, cs => do
    let (n, rest) ← takeDigits 2 cs
    match rest with
    | [] => return ([n], 0, followed)
    | c :: rest' =>
      let colons := if more == 2 then c == ':' else colons
      if rest'.isEmpty then return ([n], 0, true)
      if colons && c == ':' then
        let (ns, fraction, leftOver) ← readParts followed more colons rest'
        return (n :: ns, fraction, leftOver)
      else if c == '.' || c == ',' then
        let (fraction, leftOver) ← readFraction followed rest'
        return ([n], fraction, leftOver)
      else if !colons then
        let (ns, fraction, leftOver) ← readParts followed more colons rest
        return (n :: ns, fraction, leftOver)
      else failure

def readClock (followed : Bool) (cs : List Char) : Option Reading := do
  let (ns, fraction, leftOver) ← readParts followed 3 true cs
  return ⟨ns[0]?.getD 0, ns[1]?.getD 0, ns[2]?.getD 0, fraction, leftOver⟩

/-- A clock reading and the distance from universal time in seconds and microseconds. -/
def readTime (cs : List Char) : Option (Reading × Option (Int × Int)) := do
  let isSign (c : Char) := c == '+' || c == '-' || c == 'Z'
  let front := cs.takeWhile (!isSign ·)
  match cs.dropWhile (!isSign ·) with
  | [] =>
    let clock ← readClock false front
    if clock.leftOver then failure
    return (clock, none)
  | sign :: rest =>
    let clock ← readClock true front
    if sign == 'Z' then
      if !rest.isEmpty then failure
      return (clock, some (0, 0))
    let zone ← readClock false rest
    if zone.leftOver then failure
    let seconds : Int := zone.hour * 3600 + zone.minute * 60 + zone.second
    let sign : Int := if sign == '-' then -1 else 1
    return (clock, some (sign * seconds, sign * zone.microsecond))

/-- The time of a date and a clock reading, if there is one. -/
def check (date : Date) (clock : Reading) (offset : Option (Int × Int)) :
    Except IsoError DateTime :=
  let (seconds, microseconds) := offset.getD (0, 0)
  if seconds.natAbs ≥ 86400 then .error (.offset seconds microseconds)
  else if date.year < 1 || date.year > 9999 then .error (.year date.year)
  else if date.month < 1 || date.month > 12 then .error .month
  else if !isValidDate date.year date.month date.day then .error .day
  else if clock.hour > 23 then .error .hour
  else if clock.minute > 59 then .error .minute
  else if clock.second > 59 then .error .second
  else .ok ⟨date, clock.hour, clock.minute, clock.second, clock.microsecond,
    offset.map (·.1)⟩

end Iso

/-- The time that a standard text stands for; a distance from universal time is kept to the
second. -/
def readIso (text : String) : Except IsoError DateTime :=
  let cs := text.toList
  let length := Iso.dateLength cs
  let result : Option (Date × Iso.Reading × Option (Int × Int)) := do
    if text.utf8ByteSize < 7 then failure
    let date ← Iso.readDate length cs
    match cs.drop length with
    | [] => return (date, ⟨0, 0, 0, 0, false⟩, none)
    | _ :: rest =>
      let (clock, offset) ← Iso.readTime rest
      return (date, clock, offset)
  match result with
  | none => .error (.malformed text)
  | some (date, clock, offset) => Iso.check date clock offset

end ImagePreload.Calendar
