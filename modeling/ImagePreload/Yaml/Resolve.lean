import ImagePreload.Yaml.Cursor

/-!
# The type of a plain scalar

A plain scalar has a type by its form alone. The forms depend on the version a document declares:
the older one also knows `yes` and `no` as truth values and numbers in base sixty.
-/

namespace ImagePreload.Yaml

/-- The full name of a standard tag. -/
def standardTag (name : String) : String := "tag:yaml.org,2002:" ++ name

inductive ScalarType where
  | null
  | bool
  | int
  | float
  | timestamp
  | merge
  | value
  | text
  deriving DecidableEq, Repr

def ScalarType.tag : ScalarType → String
  | .null => standardTag "null"
  | .bool => standardTag "bool"
  | .int => standardTag "int"
  | .float => standardTag "float"
  | .timestamp => standardTag "timestamp"
  | .merge => standardTag "merge"
  | .value => standardTag "value"
  | .text => standardTag "str"

/-! ## Forms -/

private def isDigitOrLine (c : Char) : Bool := c.isDigit || c == '_'

private def dropSign : List Char → List Char
  | '-' :: cs | '+' :: cs => cs
  | cs => cs

private def isSomeDigits (cs : List Char) : Bool := !cs.isEmpty && cs.all Char.isDigit

/-- An exponent, or nothing. -/
private def isExponentEnd (signNeeded : Bool) : List Char → Bool
  | [] => true
  | c :: cs =>
    (c == 'e' || c == 'E') &&
      match cs with
      | '-' :: ds | '+' :: ds => isSomeDigits ds
      | ds => !signNeeded && isSomeDigits ds

private def startsWithDigit (cs : List Char) : Bool := (cs.head?.map Char.isDigit).getD false

/-- A decimal that starts with a digit and has a point, an exponent or both. -/
private def isDecimal (cs : List Char) : Bool :=
  startsWithDigit cs &&
    match cs.dropWhile isDigitOrLine with
    | '.' :: rest => isExponentEnd false (rest.dropWhile isDigitOrLine)
    | 'e' :: rest => isExponentEnd false ('e' :: rest)
    | 'E' :: rest => isExponentEnd false ('E' :: rest)
    | _ => false

/-- A decimal that starts with its point. -/
private def isFraction : List Char → Bool
  | '.' :: cs =>
    match cs.takeWhile isDigitOrLine with
    | [] => false
    | _ => isExponentEnd true (cs.dropWhile isDigitOrLine)
  | _ => false

/-- Numbers below sixty behind colons. -/
private def isSixties : List (List Char) → Bool
  | [] => false
  | parts => parts.all fun
    | [d] => d.isDigit
    | [t, d] => '0' ≤ t && t ≤ '5' && d.isDigit
    | _ => false

private def colonParts (cs : List Char) : List (List Char) :=
  cs.foldr (fun c parts =>
    match parts with
    | [] => [[c]]
    | part :: rest => if c == ':' then [] :: part :: rest else (c :: part) :: rest) [[]]

private def isSixtyFloat (cs : List Char) : Bool :=
  startsWithDigit cs &&
    match colonParts cs with
    | first :: part :: parts =>
      first.all isDigitOrLine &&
        match (part :: parts).reverse with
        | last :: before =>
          let (whole, behind) := (last.takeWhile (· != '.'), last.dropWhile (· != '.'))
          isSixties (whole :: before) && behind.head? == some '.'
            && (behind.drop 1).all isDigitOrLine
        | [] => false
    | _ => false

private def isSixtyInt (cs : List Char) : Bool :=
  match colonParts cs with
  | first :: part :: parts =>
    startsWithDigit first && first.head? != some '0' && first.all isDigitOrLine
      && isSixties (part :: parts)
  | _ => false

private def isInfinity (cs : List Char) : Bool :=
  ["inf", "Inf", "INF"].contains (String.ofList (cs.drop 1)) && cs.head? == some '.'

private def isNotANumber (old : Bool) (s : String) : Bool :=
  [".nan", ".NaN", ".NAN"].contains s || (!old && ["nan", "NaN", "NAN"].contains s)

def isFloat (old : Bool) (s : String) : Bool :=
  let cs := s.toList
  let unsigned := dropSign cs
  isDecimal unsigned || isInfinity unsigned || isNotANumber old s
    || isFraction (if old then cs else unsigned) || (old && isSixtyFloat unsigned)

private def isNonEmptyOver (p : Char → Bool) (cs : List Char) : Bool := !cs.isEmpty && cs.all p

private def isOctalChar (c : Char) : Bool := ('0' ≤ c && c ≤ '7') || c == '_'

private def isHexChar (c : Char) : Bool :=
  isDigitOrLine c || ('a' ≤ c && c ≤ 'f') || ('A' ≤ c && c ≤ 'F')

/-- A number in a marked base. -/
private def isMarkedInt (old : Bool) : List Char → Bool
  | '0' :: 'b' :: cs => isNonEmptyOver (fun c => c == '0' || c == '1' || c == '_') cs
  | '0' :: 'x' :: cs => isNonEmptyOver isHexChar cs
  | '0' :: 'o' :: cs => !old && isNonEmptyOver isOctalChar cs
  | _ => false

def isInt (old : Bool) (s : String) : Bool :=
  let cs := dropSign s.toList
  isMarkedInt old cs ||
    if old then
      isNonEmptyOver isOctalChar cs
        || (startsWithDigit cs && cs.head? != some '0' && cs.all isDigitOrLine)
        || isSixtyInt cs
    else isNonEmptyOver isDigitOrLine cs

def isBool (old : Bool) (s : String) : Bool :=
  ["true", "True", "TRUE", "false", "False", "FALSE"].contains s
    || (old &&
      ["y", "Y", "yes", "Yes", "YES", "n", "N", "no", "No", "NO", "on", "On", "ON", "off", "Off",
        "OFF"].contains s)

def isNull (s : String) : Bool := ["", "~", "null", "Null", "NULL"].contains s

/-! ## Times -/

/-- The parts of a written date or time. -/
structure TimeParts where
  year : Nat
  month : Nat
  day : Nat
  clock : Option (Nat × Nat × Nat)
  fraction : List Char
  /-- Minutes from universal time, behind a sign. -/
  offset : Option (Bool × Nat × Nat)
  universal : Bool

private def number (ds : List Char) : Nat := ds.foldl (fun n d => n * 10 + (d.toNat - 48)) 0

/-- Between `least` and `most` digits at the front. -/
private def takeNumber? (least most : Nat) (cs : List Char) : Option (Nat × List Char) :=
  let ds := (cs.take most).takeWhile Char.isDigit
  if ds.length < least then none else some (number ds, cs.drop ds.length)

private def takeChar? (c : Char) : List Char → Option (List Char)
  | d :: cs => if c == d then some cs else none
  | [] => none

private def zoneOf? (cs : List Char) : Option (Option (Bool × Nat × Nat) × Bool) :=
  match cs.dropWhile isSpaceOrTab with
  | [] => if cs.isEmpty then some (none, false) else none
  | ['Z'] => some (none, true)
  | sign :: rest =>
    if sign != '-' && sign != '+' then none
    else do
      let (h, rest) ← takeNumber? 1 2 rest
      match rest with
      | [] => some (some (sign == '-', h, 0), false)
      | ':' :: rest =>
        let (m, rest) ← takeNumber? 2 2 rest
        if rest.isEmpty then some (some (sign == '-', h, m), false) else none
      | _ => none

/-- A date, or a date and a time. Month and day of a bare date need two digits each when `strict`
says so. -/
def timeParts? (strict : Bool) (s : String) : Option TimeParts := do
  let (year, cs) ← takeNumber? 4 4 s.toList
  let cs ← takeChar? '-' cs
  let (month, afterMonth) ← takeNumber? 1 2 cs
  let dayStart ← takeChar? '-' afterMonth
  let (day, rest) ← takeNumber? 1 2 dayStart
  let short := cs.length - afterMonth.length < 2 || dayStart.length - rest.length < 2
  if rest.isEmpty then
    if strict && short then none
    else return ⟨year, month, day, none, [], none, false⟩
  else
    let clock ←
      match rest with
      | 'T' :: cs | 't' :: cs => some cs
      | c :: cs => if isSpaceOrTab c then some (cs.dropWhile isSpaceOrTab) else none
      | [] => none
    let (hour, cs) ← takeNumber? 1 2 clock
    let (minute, cs) ← takeNumber? 2 2 (← takeChar? ':' cs)
    let (second, cs) ← takeNumber? 2 2 (← takeChar? ':' cs)
    let (fraction, cs) :=
      match cs with
      | '.' :: cs => (cs.takeWhile Char.isDigit, cs.dropWhile Char.isDigit)
      | cs => ([], cs)
    let (offset, universal) ← zoneOf? cs
    return ⟨year, month, day, some (hour, minute, second), fraction, offset, universal⟩

/-- The type of a plain scalar. -/
def resolvePlain (old : Bool) (s : String) : ScalarType :=
  if isBool old s then .bool
  else if isFloat old s then .float
  else if startsNumber s && isInt old s then .int
  else if s == "<<" then .merge
  else if isNull s then .null
  else if (timeParts? true s).isSome then .timestamp
  else if s == "=" then .value
  else .text
where
  /-- Only a sign or a digit may start an integer. -/
  startsNumber (s : String) : Bool :=
    match s.toList.head? with
    | some c => c.isDigit || c == '-' || c == '+'
    | none => false

end ImagePreload.Yaml
