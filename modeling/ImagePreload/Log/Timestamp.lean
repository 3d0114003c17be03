import ImagePreload.Calendar.Iso
import ImagePreload.Value

/-!
# Timestamps

A timestamp is a count of seconds since the start of the epoch, or a standard text of a time. It is
shown as a line of fixed width in universal time.
-/

namespace ImagePreload

inductive TimestampError where
  | text (e : Calendar.IsoError)
  | type (typeName : String)
  | notANumber
  | tooLarge
  | year (n : Int)

namespace TimestampError

def message : TimestampError → String
  | .text e => e.message
  | .type typeName => "'" ++ typeName ++ "' object cannot be interpreted as an integer"
  | .notANumber => "Invalid value NaN (not a number)"
  | .tooLarge => "timestamp out of range for platform time_t"
  | .year n => "year " ++ toString n ++ " is out of range"

end TimestampError

namespace Timestamp

/-- The whole seconds of a count of seconds that is rounded to microseconds. -/
def wholeSeconds : Number → Except TimestampError Int
  | .int n => .ok n
  | .float x =>
    match Number.truncate x with
    | .error _ => .error (if x.isNaN then .notANumber else .tooLarge)
    | .ok whole =>
      let part := Decimal.roundPlaces ((x - x.floor) * 1000000) 0
      .ok (if x < 0 && x.floor != x then if part ≥ 1000000 then whole else whole - 1
        else if part ≥ 1000000 then whole + 1 else whole)

/-- The year of a day outside the calendar. -/
def distantYear (day : Int) : Int :=
  let cycles := Int.fdiv (day - 1) 146097
  let inCycle := (Int.fmod (day - 1) 146097).toNat + 1
  cycles * 400 + (Calendar.ofDayNumber inCycle).year

def ofSeconds (seconds : Int) : Except TimestampError DateTime :=
  match Calendar.ofEpochSeconds? seconds with
  | some t => .ok t
  | none =>
    if seconds.natAbs ≥ Nat.pow 2 55 then .error .tooLarge
    else .error (.year (distantYear (Int.fdiv seconds 86400 + Calendar.epochDay)))

/-- The seconds that a timestamp counts. -/
def seconds : Value → Except TimestampError Int
  | .text s =>
    (Calendar.readIso (.ofList (s.toList.flatMap fun c =>
      if c == 'Z' then ['+', '0', '0', ':', '0', '0'] else [c]))).mapError .text
      |>.map Calendar.epochSeconds
  | v =>
    match v.number? with
    | some n => wholeSeconds n
    | none => .error (.type v.typeName)

/-- The line for a timestamp. -/
def line (v : Value) : Except TimestampError String := do
  return Calendar.longText (← ofSeconds (← seconds v))

end Timestamp

end ImagePreload
