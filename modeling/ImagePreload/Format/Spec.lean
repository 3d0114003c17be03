import ImagePreload.Decimal.Reading
import ImagePreload.Number
import ImagePreload.Text.Quoted

/-!
# Format specifications

A specification says how one value is laid out: what fills the width and on which side, how signs
and thousands are written, how many digits there are, and in which form. What may be specified
depends on the sort of the value.
-/

namespace ImagePreload.Format

inductive FormatError where
  | unknownCode (code : Char) (typeName : String)
  | signInText
  | spaceInText
  | positiveZeroInText
  | alternateInText
  | alignmentInText
  | groupingIn (code : Char) (mark : Char)
  | twoGroupings
  | precisionInInteger
  | positiveZeroInInteger
  | signWithChar
  | alternateWithChar
  | missingPrecision
  | tooManyDigits
  | precisionTooBig
  | invalid (spec typeName : String)
  /-- A sort of value that takes no specification. -/
  | unsupported (typeName : String)
  | charRange
  | charTooLarge
  | arithmetic (cause : ArithmeticError)

/-- A code as messages show it: by its number when it is not a printable letter. -/
def codeText (code : Char) : String :=
  if ' ' < code && code.toNat < 128 then String.singleton code
  else "\\x" ++ String.ofList (Nat.toDigits 16 code.toNat)

def FormatError.isType : FormatError → Bool
  | .unsupported _ => true
  | _ => false

def FormatError.message : FormatError → String
  | .unknownCode code t =>
    "Unknown format code '" ++ codeText code ++ "' for object of type '" ++ t ++ "'"
  | .signInText => "Sign not allowed in string format specifier"
  | .spaceInText => "Space not allowed in string format specifier"
  | .positiveZeroInText =>
    "Negative zero coercion (z) not allowed in string format specifier"
  | .alternateInText => "Alternate form (#) not allowed in string format specifier"
  | .alignmentInText => "'=' alignment not allowed in string format specifier"
  | .groupingIn code mark =>
    "Cannot specify '" ++ String.singleton mark ++ "' with '" ++ codeText code ++ "'."
  | .twoGroupings => "Cannot specify both ',' and '_'."
  | .precisionInInteger => "Precision not allowed in integer format specifier"
  | .positiveZeroInInteger =>
    "Negative zero coercion (z) not allowed in integer format specifier"
  | .signWithChar => "Sign not allowed with integer format specifier 'c'"
  | .alternateWithChar => "Alternate form (#) not allowed with integer format specifier 'c'"
  | .missingPrecision => "Format specifier missing precision"
  | .tooManyDigits => "Too many decimal digits in format string"
  | .precisionTooBig => "precision too big"
  | .invalid spec t =>
    "Invalid format specifier '" ++ spec ++ "' for object of type '" ++ t ++ "'"
  | .unsupported t => "unsupported format string passed to " ++ t ++ ".__format__"
  | .charRange => "%c arg not in range(0x110000)"
  | .charTooLarge => "Python int too large to convert to C long"
  | .arithmetic cause => cause.message

/-- What is laid out: texts stand on the left, numbers on the right. -/
inductive Subject where
  | text
  | integer
  | float
  deriving DecidableEq

def Subject.code? : Subject → Option Char
  | .text => some 's'
  | .integer => some 'd'
  | .float => none

structure Spec where
  fill : Char
  align : Char
  sign : Option Char
  /-- Whether a zero never has a minus. -/
  positiveZero : Bool
  alternate : Bool
  width : Nat
  grouping : Option Char
  precision : Option Nat
  code : Option Char

private def isAlign (c : Char) : Bool := c == '<' || c == '>' || c == '=' || c == '^'

private def takeAlign : List Char → (Option Char × Option Char) × List Char
  | f :: a :: rest =>
    if isAlign a then ((some f, some a), rest)
    else if isAlign f then ((none, some f), a :: rest)
    else ((none, none), f :: a :: rest)
  | [a] => if isAlign a then ((none, some a), []) else ((none, none), [a])
  | [] => ((none, none), [])

private def takeIf (p : Char → Bool) : List Char → Option Char × List Char
  | c :: cs => if p c then (some c, cs) else (none, c :: cs)
  | [] => (none, [])

private def takeNat (cs : List Char) : Option Nat × List Char :=
  match cs.takeWhile Char.isDigit with
  | [] => (none, cs)
  | ds => (some (ds.foldl (fun n d => n * 10 + (d.toNat - 48)) 0), cs.dropWhile Char.isDigit)

/-- The largest width and precision that can be written. -/
def largestCount : Nat := Nat.pow 2 63 - 1

private def takeCount (cs : List Char) : Except FormatError (Option Nat × List Char) :=
  match takeNat cs with
  | (some n, rest) => if n > largestCount then .error .tooManyDigits else .ok (some n, rest)
  | (none, rest) => .ok (none, rest)

private def takeGrouping : List Char → Except FormatError (Option Char × List Char)
  | ',' :: '_' :: _ | '_' :: ',' :: _ => .error .twoGroupings
  | ',' :: cs => .ok (some ',', cs)
  | '_' :: cs => .ok (some '_', cs)
  | cs => .ok (none, cs)

private def takePrecision : List Char → Except FormatError (Option Nat × List Char)
  | '.' :: cs => do
    match ← takeCount cs with
    | (none, _) => throw .missingPrecision
    | (some n, rest) => return (some n, rest)
  | cs => .ok (none, cs)

/-- Whether digits may be grouped with a mark under a code. -/
def mayGroup (mark : Char) (code : Option Char) : Bool :=
  match code with
  | none => true
  | some c => "deEfFg%G".toList.contains c || (mark == '_' && "boxX".toList.contains c)

/-- Reads a specification for a value of some sort. -/
def Spec.read (subject : Subject) (typeName : String) (spec : List Char) :
    Except FormatError Spec := do
  let ((fill, align), cs) := takeAlign spec
  let (sign, cs) := takeIf (fun c => c == '+' || c == '-' || c == ' ') cs
  let (positiveZero, cs) := takeIf (· == 'z') cs
  let (alternate, cs) := takeIf (· == '#') cs
  let (zero, cs) := takeIf (fun c => c == '0' && fill.isNone) cs
  let (width, cs) ← takeCount cs
  let (grouping, cs) ← takeGrouping cs
  let (precision, cs) ← takePrecision cs
  let code ←
    match cs with
    | [] => pure subject.code?
    | [c] => pure (some c)
    | _ => throw (.invalid (String.ofList spec) typeName)
  match grouping with
  | some mark => if !mayGroup mark code then throw (.groupingIn (code.getD 's') mark)
  | none => pure ()
  let usual :=
    if subject == .text then '<' else if zero.isSome then '=' else '>'
  return {
    fill := fill.getD (if zero.isSome then '0' else ' ')
    align := align.getD usual
    sign, positiveZero := positiveZero.isSome, alternate := alternate.isSome
    width := width.getD 0, grouping, precision, code }

/-- Fills a text up to the width. The part in front stays in front when the filling goes between it
and the rest. -/
def Spec.pad (s : Spec) (front body : List Char) : List Char :=
  let missing := s.width - (front.length + body.length)
  let fill (n : Nat) : List Char := List.replicate n s.fill
  if s.align == '<' then front ++ body ++ fill missing
  else if s.align == '>' then fill missing ++ front ++ body
  else if s.align == '^' then
    fill (missing / 2) ++ front ++ body ++ fill (missing - missing / 2)
  else front ++ fill missing ++ body

/-- A text under a specification. -/
def formatText (s : Spec) (text : String) : Except FormatError String :=
  if s.code != some 's' then .error (.unknownCode (s.code.getD 's') "str")
  else if s.sign == some ' ' then .error .spaceInText
  else if s.sign.isSome then .error .signInText
  else if s.positiveZero then .error .positiveZeroInText
  else if s.alternate then .error .alternateInText
  else if s.align == '=' then .error .alignmentInText
  else
    let cs := match s.precision with
      | some n => text.toList.take n
      | none => text.toList
    .ok (String.ofList (s.pad [] cs))

/-- Groups of digits, counted from the right. -/
private def groupDigits (mark : Char) (size : Nat) (ds : List Char) : List Char :=
  let rec go : Nat → List Char → List Char
    | _, [] => []
    | n, d :: rest => if n == size then mark :: d :: go 1 rest else d :: go (n + 1) rest
  (go 0 ds.reverse).reverse

private def signText (s : Spec) (negative : Bool) : List Char :=
  if negative then ['-']
  else
    match s.sign with
    | some '+' => ['+']
    | some ' ' => [' ']
    | _ => []

/-- Digits grouped, and zeros in front up to the width when zeros fill between sign and digits. -/
private def zeroFilled (s : Spec) (front ds : List Char) (size : Nat) (tail : List Char) :
    List Char :=
  let grouped (ds : List Char) : List Char :=
    match s.grouping with
    | some mark => groupDigits mark size ds
    | none => ds
  if s.align == '=' && s.fill == '0' && s.grouping.isSome && !ds.isEmpty then
    let room := s.width - (front.length + tail.length)
    let candidates := (List.range (room + 1)).map fun n => grouped (List.replicate n '0' ++ ds)
    let fitting := (candidates.find? fun c => c.length ≥ room).getD (grouped ds)
    front ++ fitting ++ tail
  else s.pad front (grouped ds ++ tail)

/-- The digits of an integer in the base of a code, and the mark of that base. -/
def integerDigits (code : Char) (n : Nat) : List Char × List Char :=
  if code == 'b' then (Nat.toDigits 2 n, ['0', 'b'])
  else if code == 'o' then (Nat.toDigits 8 n, ['0', 'o'])
  else if code == 'x' then (Nat.toDigits 16 n, ['0', 'x'])
  else if code == 'X' then ((Nat.toDigits 16 n).map Char.toUpper, ['0', 'X'])
  else (Nat.toDigits 10 n, [])

/-- Digits with a point behind them, if there is none yet. -/
private def withPoint (cs : List Char) : List Char :=
  match cs.span Char.isDigit with
  | (ds, '.' :: rest) => ds ++ '.' :: rest
  | (ds, rest) => ds ++ '.' :: rest

/-- Digits with at least one place behind a point, unless there is an exponent. -/
private def withPlace (cs : List Char) : List Char :=
  if cs.contains 'e' then cs
  else
    match cs.span Char.isDigit with
    | (ds, []) | (ds, ['.']) => ds ++ ['.', '0']
    | _ => cs

/-- The written form of a double without its sign. -/
def floatBody (code : Option Char) (precision : Option Nat) (alternate : Bool) (x : Float) :
    List Char :=
  let upper (cs : List Char) : List Char :=
    if (code.map Char.isUpper).getD false then cs.map Char.toUpper else cs
  let pointed (cs : List Char) : List Char := if alternate then withPoint cs else cs
  let percent := code == some '%'
  let unit := if percent then ['%'] else []
  match Decimal.shape (if percent then x * 100 else x) with
  | .notANumber => upper ['n', 'a', 'n'] ++ unit
  | .infinite _ => upper ['i', 'n', 'f'] ++ unit
  | .finite b =>
    let (num, den) := b.fraction
    let p := precision.getD 6
    match code.map Char.toLower with
    | some 'f' | some '%' => pointed (Decimal.fixedText num den p) ++ unit
    | some 'e' => upper (pointed (Decimal.scientificText num den p))
    | some _ =>
      let p := max p 1
      upper (pointed (Decimal.generalText num den p p alternate))
    | none =>
      match precision with
      | some p =>
        let p := max p 1
        withPlace (pointed (Decimal.generalText num den p (p - 1) alternate))
      | none => pointed (Decimal.floatText x.abs).toList

private def isFloatCode (c : Char) : Bool := "eEfFgGn%".toList.contains c

/-- The largest precision of a double. -/
def largestPrecision : Nat := Nat.pow 2 31 - 1

def formatFloat (s : Spec) (x : Float) : Except FormatError String :=
  if (s.precision.getD 0) > largestPrecision then .error .precisionTooBig
  else
    match s.code with
    | some c =>
      if isFloatCode c then .ok (layOut s (if c == 'n' then some 'g' else some c))
      else .error (.unknownCode c "float")
    | none => .ok (layOut s none)
where
  layOut (s : Spec) (code : Option Char) : String :=
    let body := floatBody code s.precision s.alternate x
    let isZero := (body.takeWhile fun c => !(c == 'e' || c == 'E')).all fun c =>
      !('1' ≤ c && c ≤ '9') && !c.isAlpha
    let negative :=
      match Decimal.shape x with
      | .finite b => b.negative && !(s.positiveZero && isZero)
      | .infinite negative => negative
      | .notANumber => false
    let (ds, tail) := (body.takeWhile Char.isDigit, body.dropWhile Char.isDigit)
    String.ofList (zeroFilled s (signText s negative) ds 3 tail)

def formatInt (typeName : String) (s : Spec) (n : Int) : Except FormatError String :=
  let c := s.code.getD 'd'
  if "eEfFgG%".toList.contains c then
    match Number.floatOfInt n with
    | .ok x => formatFloat s x
    | .error e => .error (.arithmetic e)
  else if !"bcdoxXn".toList.contains c then .error (.unknownCode c typeName)
  else if s.precision.isSome then .error .precisionInInteger
  else if s.positiveZero then .error .positiveZeroInInteger
  else if c == 'c' then
    if s.sign.isSome then .error .signWithChar
    else if s.alternate then .error .alternateWithChar
    else if n < -(Nat.pow 2 63) || n ≥ Nat.pow 2 63 then .error .charTooLarge
    else if n < 0 || n ≥ 0x110000 then .error .charRange
    else .ok (String.ofList (s.pad [] [Char.ofNat n.toNat]))
  else
    let (ds, mark) := integerDigits c n.natAbs
    let front := signText s (n < 0) ++ (if s.alternate then mark else [])
    .ok (String.ofList (zeroFilled s front ds (if c == 'd' || c == 'n' then 3 else 4) []))

/-- A number under a written specification; a truth value counts as an integer. -/
def formatNumber (typeName : String) (spec : List Char) : Number → Except FormatError String
  | .int n => do formatInt typeName (← Spec.read .integer typeName spec) n
  | .float x => do formatFloat (← Spec.read .float typeName spec) x

end ImagePreload.Format
