import ImagePreload.Decimal.Reading
import ImagePreload.Text.Base64
import ImagePreload.Text.Case
import ImagePreload.Text.Search
import ImagePreload.Yaml.Resolve

/-!
# The value of a scalar

A scalar's tag says how its text is read. Low lines in numbers do not count.
-/

namespace ImagePreload.Yaml

private def withoutLines (s : String) : List Char := s.toList.filter (· != '_')

private def signOf : List Char → Bool × List Char
  | '-' :: cs => (true, cs)
  | '+' :: cs => (false, cs)
  | cs => (false, cs)

/-- Reads an integer; one of more than the permitted digits in the decimal base has no value. -/
private def readInt (base : Nat) (cs : List Char) : Load Int :=
  let s := String.ofList cs
  match Decimal.readInt? base s with
  | some n =>
    let digits := (cs.filter fun c => (Text.digitValue? c).isSome).length
    if base == 10 && digits > Value.digitLimit then .error (.longInteger digits) else .ok n
  | none => .error (.integer base s)

/-- The sum of parts in base sixty, the last one counting once. -/
private def sixtieth {α : Type} (add mul : α → α → α) (zero sixty : α) (parts : List α) : α :=
  parts.foldl (fun total part => add (mul total sixty) part) zero

def intValue (old : Bool) (text : String) : Load Value := do
  let cs := withoutLines text
  if cs.isEmpty then .error .emptyNumber
  else
    let (negative, cs) := signOf cs
    let n ←
      match cs with
      | ['0'] => pure 0
      | '0' :: 'b' :: ds => readInt 2 ds
      | '0' :: 'x' :: ds => readInt 16 ds
      | '0' :: 'o' :: ds => readInt 8 ds
      | cs =>
        if old && cs.isEmpty then .error .emptyNumber
        else if old && cs.head? == some '0' then readInt 8 cs
        else if old && cs.contains ':' then do
          let parts ← (Text.splitOn [':'] none cs).mapM (readInt 10)
          pure (sixtieth (· + ·) (· * ·) 0 60 parts)
        else readInt 10 cs
    return .int (if negative then -n else n)

private def readFloat (cs : List Char) : Load Float :=
  match Decimal.readFloat? (String.ofList cs) with
  | some x => .ok x
  | none => .error (.float (String.ofList cs))

def floatValue (old : Bool) (text : String) : Load Value := do
  let cs := (Text.lower (String.ofList (withoutLines text))).toList
  if cs.isEmpty then .error .emptyNumber
  else
    let (negative, cs) := signOf cs
    if cs == ".nan".toList then return .float Decimal.notANumber
    let x ←
      if cs == ".inf".toList then pure Decimal.infinity
      else if old && cs.contains ':' then do
        let parts ← (Text.splitOn [':'] none cs).mapM readFloat
        pure (sixtieth (· + ·) (· * ·) 0.0 60.0 parts)
      else readFloat cs
    return .float (if negative then -x else x)

def truthValue (text : String) : Load Value :=
  let s := Text.lower text
  if ["yes", "y", "true", "on"].contains s then return .bool true
  else if ["no", "n", "false", "off"].contains s then return .bool false
  else .error (.truth s)

/-- The fraction of a second in microseconds; the seventh digit rounds. The second part says
whether it came to a whole second. -/
private def microseconds (fraction : List Char) : Nat × Bool :=
  let six := (fraction ++ List.replicate 6 '0').take 6
  let n := six.foldl (fun n d => n * 10 + (d.toNat - 48)) 0
  let n := if (fraction.drop 6).headD '0' > '4' then n + 1 else n
  if n > 999999 then (0, true) else (n, false)

private def offsetSeconds (p : TimeParts) : Load (Option Int) :=
  match p.offset with
  | none => return if p.universal then some 0 else none
  | some (negative, h, m) =>
    let n : Int := h * 3600 + m * 60
    if n ≥ 86400 then
      let signed := if negative then -n else n
      let days := Int.fdiv signed 86400
      let seconds := Int.fmod signed 86400
      .error (.date ("offset must be a timedelta strictly between -timedelta(hours=24) and "
        ++ "timedelta(hours=24), not datetime.timedelta(days=" ++ toString days
        ++ (if seconds == 0 then "" else ", seconds=" ++ toString seconds) ++ ")."))
    else return some (if negative then -n else n)

private def validDate (year month day : Nat) : Load Date :=
  if year < 1 then .error (.date ("year " ++ toString year ++ " is out of range"))
  else if month < 1 || month > 12 then .error (.date "month must be in 1..12")
  else if day < 1 || day > Calendar.daysInMonth year month then
    .error (.date "day is out of range for month")
  else .ok ⟨year, month, day⟩

/-- One second later. -/
private def nextSecond (t : DateTime) : Load DateTime :=
  let seconds := Calendar.epochSeconds { t with offset := none } + 1
  match Calendar.ofEpochSeconds? seconds with
  | some u => .ok { u with microsecond := t.microsecond, offset := t.offset }
  | none => .error (.date "date value out of range")

def timestampValue (text : String) : Load Value := do
  match timeParts? false text with
  | none => flawed .content
  | some p =>
    match p.clock with
    | none => return .date (← validDate p.year p.month p.day)
    | some (hour, minute, second) =>
      let offset ← offsetSeconds p
      let date ← validDate p.year p.month p.day
      if hour > 23 then .error (.date "hour must be in 0..23")
      else if minute > 59 then .error (.date "minute must be in 0..59")
      else if second > 59 then .error (.date "second must be in 0..59")
      else
        let (micro, carry) := microseconds p.fraction
        let t : DateTime := ⟨date, hour, minute, second, micro, offset⟩
        return .time (← if carry then nextSecond t else pure t)

def binaryValue (text : String) : Load Value :=
  if text.toList.any (·.toNat ≥ 0x80) then flawed .binary
  else
    match Text.decodeBase64 text with
    | .ok data => return .bytes data
    | .error _ => flawed .binary

/-- The value of a scalar with a tag. -/
def scalarValue (old : Bool) (tag text : String) : Load Value :=
  if tag == standardTag "str" then return .text text
  else if tag == standardTag "null" then return .null
  else if tag == standardTag "int" then intValue old text
  else if tag == standardTag "float" then floatValue old text
  else if tag == standardTag "bool" then truthValue text
  else if tag == standardTag "timestamp" then timestampValue text
  else if tag == standardTag "binary" then binaryValue text
  else flawed .unknownTag

end ImagePreload.Yaml
