import ImagePreload.Value
import ImagePreload.Text.Quoted

/-!
# The text of a value

A value is shown as itself, or quoted as a part of something larger: texts get quotes, and so do
dates get the form of a constructor call. Containers show their items quoted.

Texts of integers are bounded: an integer with more than `digitLimit` digits has none.
-/

namespace ImagePreload

namespace Value

/-- The most digits the text of an integer may have. -/
def digitLimit : Nat := 4300

def isLongInt (n : Int) : Bool := n.natAbs ≥ Nat.pow 10 digitLimit

mutual

/-- Whether a value holds an integer with too many digits for a text. -/
def isTooLong : Value → Bool
  | .int n => isLongInt n
  | .list items | .tuple items | .set items => anyTooLong items
  | .map entries => anyEntryTooLong entries
  | _ => false

def anyTooLong : List Value → Bool
  | [] => false
  | v :: vs => isTooLong v || anyTooLong vs

def anyEntryTooLong : List (Value × Value) → Bool
  | [] => false
  | (k, v) :: rest => isTooLong k || isTooLong v || anyEntryTooLong rest

end

def quotedDate (d : Date) : String :=
  "datetime.date(" ++ toString d.year ++ ", " ++ toString d.month ++ ", " ++ toString d.day ++ ")"

/-- A distance from universal time as days and seconds. -/
def quotedOffset (offset : Int) : String :=
  if offset == 0 then "datetime.timezone.utc"
  else
    let days := Int.fdiv offset 86400
    let seconds := Int.fmod offset 86400
    let parts :=
      (if days == 0 then [] else ["days=" ++ toString days])
        ++ (if seconds == 0 then [] else ["seconds=" ++ toString seconds])
    "datetime.timezone(datetime.timedelta(" ++ ", ".intercalate parts ++ "))"

def quotedTime (t : DateTime) : String :=
  let small :=
    if t.microsecond != 0 then [t.second, t.microsecond]
    else if t.second != 0 then [t.second]
    else []
  let parts := [t.date.year, t.date.month, t.date.day, t.hour, t.minute] ++ small
  let zone := (t.offset.map fun o => ", tzinfo=" ++ quotedOffset o).getD ""
  "datetime.datetime(" ++ ", ".intercalate (parts.map toString) ++ zone ++ ")"

/-- Parts between an opening and a closing bracket. -/
def bracketed (opening closing : String) (parts : List String) : String :=
  opening ++ ", ".intercalate parts ++ closing

mutual

/-- The text of a value as a part of something larger. -/
def quoted : Value → String
  | .null => "None"
  | .bool b => if b then "True" else "False"
  | .int n => toString n
  | .float x => Decimal.floatText x
  | .text s => Text.quoted s
  | .bytes data => Text.quotedBytes data
  | .date d => quotedDate d
  | .time t => quotedTime t
  | .list items => bracketed "[" "]" (quotedItems items)
  | .tuple [v] => "(" ++ quoted v ++ ",)"
  | .tuple items => bracketed "(" ")" (quotedItems items)
  | .set [] => "set()"
  | .set items => bracketed "\x7b" "\x7d" (quotedItems items)
  | .map entries => bracketed "\x7b" "\x7d" (quotedEntries entries)

def quotedItems : List Value → List String
  | [] => []
  | v :: vs => quoted v :: quotedItems vs

def quotedEntries : List (Value × Value) → List String
  | [] => []
  | (k, v) :: rest => (quoted k ++ ": " ++ quoted v) :: quotedEntries rest

end

/-- The text of a value. -/
def display : Value → String
  | .text s => s
  | .date d => Calendar.dateText d
  | .time t => Calendar.dateTimeText t
  | v => v.quoted

end Value

/-- The message for an integer with too many digits to be written. -/
def tooManyDigitsMessage : String :=
  "Exceeds the limit (4300 digits) for integer string conversion; "
    ++ "use sys.set_int_max_str_digits() to increase the limit"

/-- The message for a text with too many digits to be read as an integer. -/
def tooManyDigitsToRead (digits : Nat) : String :=
  "Exceeds the limit (4300 digits) for integer string conversion: value has "
    ++ toString digits ++ " digits; use sys.set_int_max_str_digits() to increase the limit"

end ImagePreload
