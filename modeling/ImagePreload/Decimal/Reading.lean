import ImagePreload.Decimal.Nearest
import ImagePreload.Text.Digit
import ImagePreload.Text.Blank

/-!
# Reading numbers

A written decimal is digits, a point, digits and an exponent; its value is the double nearest to it.
The lenient readers also take blanks around the number, a sign, single low lines between digits and
the digits of every script.
-/

namespace ImagePreload.Decimal

def digitsValue (base : Nat) (ds : List Nat) : Nat := ds.foldl (fun n d => n * base + d) 0

/-- The double nearest to `m · 10 ^ e`. -/
def ofScientific (m : Nat) (e : Int) : Float :=
  if m == 0 then 0.0
  else
    let size : Int := (m.log2 * 30103 : Nat) / 100000 + e
    if size > 400 then infinity
    else if size < -400 then 0.0
    else if e ≥ 0 then nearest (m * Nat.pow 10 e.toNat) 1
    else nearest m (Nat.pow 10 (-e).toNat)

/-- The double nearest to `whole.behind`, both as digits. -/
def ofPlaces (whole behind : List Nat) : Float :=
  ofScientific (digitsValue 10 (whole ++ behind)) (-(behind.length : Int))

/-- A sign, if there is one: whether it is a minus, and what follows. -/
def takeSign : List Char → Bool × List Char
  | '-' :: cs => (true, cs)
  | '+' :: cs => (false, cs)
  | cs => (false, cs)

/-- Digits in full, with single low lines between them. -/
def readDigits? (digit? : Char → Option Nat) (cs : List Char) : Option (List Nat) :=
  let rec go (afterDigit : Bool) : List Char → Option (List Nat)
    | [] => if afterDigit then some [] else none
    | '_' :: cs => if afterDigit then go false cs else none
    | c :: cs => do
      let d ← digit? c
      let ds ← go true cs
      return d :: ds
  go false cs

private def lowerAscii (cs : List Char) : List Char := cs.map Char.toLower

/-- Splits at the first character that satisfies the test; the character itself is dropped. -/
def splitWhere (p : Char → Bool) (cs : List Char) : List Char × Option (List Char) :=
  match cs.dropWhile (!p ·) with
  | [] => (cs, none)
  | _ :: rest => (cs.takeWhile (!p ·), some rest)

/-- An unsigned decimal with optional point and exponent. -/
def readUnsigned? (digit? : Char → Option Nat) (cs : List Char) : Option Float := do
  let (mantissa, exponent) := splitWhere (fun c => c == 'e' || c == 'E') cs
  let e ← match exponent with
    | none => some (0 : Int)
    | some t =>
      let (negative, t) := takeSign t
      (readDigits? digit? t).map fun ds =>
        let n := digitsValue 10 ds
        if negative then -(n : Int) else n
  let (whole, behind) := splitWhere (· == '.') mantissa
  let part? (t : List Char) : Option (List Nat) :=
    if t.isEmpty then some [] else readDigits? digit? t
  let w ← part? whole
  let b ← part? (behind.getD [])
  if w.isEmpty && b.isEmpty then none
  else some (ofScientific (digitsValue 10 (w ++ b)) (e - b.length))

/-- Reads a double leniently: blanks around it, signs, infinities and the absent number. -/
def readFloat? (s : String) : Option Float :=
  let (negative, cs) := takeSign (Text.stripBlanks s.toList)
  let x? :=
    match String.ofList (lowerAscii cs) with
    | "inf" | "infinity" => some infinity
    | "nan" => some notANumber
    | _ => readUnsigned? Text.digitValue? cs
  x?.map fun x => if negative then -x else x

/-- The base a leading mark such as `0x` stands for. -/
def markedBase : List Char → Option (Nat × List Char)
  | '0' :: c :: cs =>
    if c == 'x' || c == 'X' then some (16, cs)
    else if c == 'o' || c == 'O' then some (8, cs)
    else if c == 'b' || c == 'B' then some (2, cs)
    else none
  | _ => none

/-- Reads an integer in a base leniently: blanks around it, a sign, a mark of the base in front, and
low lines between digits. Base 0 takes the base from the mark. -/
def readInt? (base : Nat) (s : String) : Option Int := do
  let (negative, cs) := takeSign (Text.stripBlanks s.toList)
  let (b, body) :=
    match markedBase cs with
    | some (marked, rest) =>
      if base == marked || base == 0 then
        (marked, match rest with | '_' :: r => r | r => r)
      else (base, cs)
    | none => (if base == 0 then 10 else base, cs)
  let digit? (c : Char) : Option Nat :=
    match Text.baseDigit? b c with
    | some d => some d
    | none => (Text.digitValue? c).filter (· < b)
  let ds ← readDigits? digit? body
  let n := digitsValue b ds
  let leadingZero := base == 0 && b == 10 && ds.head? == some 0 && n != 0
  if leadingZero then none else some (if negative then -(n : Int) else n)

end ImagePreload.Decimal
