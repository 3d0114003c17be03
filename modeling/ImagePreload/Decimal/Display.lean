import ImagePreload.Decimal.Shortest

/-!
# Decimal text of numbers

The plain text of a double has the fewest digits that read back. It is positional while the point
falls between the fourth zero behind it and the sixteenth digit before it, always with at least one
digit behind the point, and has an exponent of two digits or more otherwise.

The fixed, scientific and general forms round the exact value to a given number of places.
-/

namespace ImagePreload.Decimal

def digitsOf (n : Nat) : List Char := Nat.toDigits 10 n

def zeros (n : Nat) : List Char := List.replicate n '0'

/-- The exponent with its sign and at least two digits. -/
def exponentText (e : Int) : List Char :=
  let d := digitsOf e.natAbs
  (if e < 0 then '-' else '+') :: zeros (2 - d.length) ++ d

/-- The plain text of a positive decimal. -/
def Digits.text (d : Digits) : List Char :=
  let ds := digitsOf d.digits
  let point : Int := ds.length + d.exponent
  if -4 < point && point ≤ 16 then
    if point ≤ 0 then '0' :: '.' :: zeros (-point).toNat ++ ds
    else
      let n := point.toNat
      if ds.length ≤ n then ds ++ zeros (n - ds.length) ++ ['.', '0']
      else ds.take n ++ '.' :: ds.drop n
  else
    let mantissa :=
      match ds with
      | [c] => [c]
      | c :: cs => c :: '.' :: cs
      | [] => []
    mantissa ++ 'e' :: exponentText (point - 1)

def signed (negative : Bool) (cs : List Char) : List Char :=
  if negative then '-' :: cs else cs

/-- The plain text of a double. -/
def floatText (x : Float) : String :=
  .ofList <| match shape x with
  | .notANumber => ['n', 'a', 'n']
  | .infinite negative => signed negative ['i', 'n', 'f']
  | .finite b =>
    signed b.negative (if b.m == 0 then ['0', '.', '0'] else (shortest b).text)

/-- `num / den` with a fixed count of places behind the point. -/
def fixedText (num den places : Nat) : List Char :=
  let n := roundDiv (num * Nat.pow 10 places) den
  let ds := digitsOf n
  let ds := zeros (places + 1 - ds.length) ++ ds
  let (whole, behind) := ds.splitAt (ds.length - places)
  if places == 0 then whole else whole ++ '.' :: behind

/-- Digits and decimal exponent of `num / den` rounded to `places + 1` significant digits. -/
def significant (num den places : Nat) : Nat × Int :=
  if num == 0 then (0, 0)
  else
    let e := decimalPoint num den - 1
    let shift : Int := places - e
    let n :=
      if shift ≥ 0 then roundDiv (num * Nat.pow 10 shift.toNat) den
      else roundDiv num (den * Nat.pow 10 (-shift).toNat)
    if n ≥ Nat.pow 10 (places + 1) then (n / 10, e + 1) else (n, e)

/-- `num / den` as one digit, a point, `places` digits and an exponent. -/
def scientificText (num den places : Nat) : List Char :=
  let (n, e) := significant num den places
  let ds := digitsOf n
  let ds := ds ++ zeros (places + 1 - ds.length)
  let mantissa := if places == 0 then ds else ds.take 1 ++ '.' :: ds.drop 1
  mantissa ++ 'e' :: exponentText e

private def dropEndZeros (cs : List Char) : List Char :=
  if cs.contains '.' then
    let kept := (cs.reverse.dropWhile (· == '0'))
    (match kept with
      | '.' :: r => r
      | r => r).reverse
  else cs

/-- `num / den` with `precision` significant digits, at least one: positional while the exponent is
above -5 and below `bound`, with an exponent otherwise. Zeros at the end are dropped unless `keep`
says to keep them. -/
def generalText (num den precision bound : Nat) (keep : Bool) : List Char :=
  let (_, e) := significant num den (precision - 1)
  if -4 ≤ e && e < bound then
    let s := fixedText num den ((precision : Int) - 1 - e).toNat
    if keep then s else dropEndZeros s
  else
    let s := scientificText num den (precision - 1)
    if keep then s
    else dropEndZeros (s.takeWhile (· != 'e')) ++ s.dropWhile (· != 'e')

/-- A double rounded to a count of decimal places, a half of the exact value to the even side. -/
def roundPlaces (x : Float) (places : Int) : Float :=
  match shape x with
  | .finite b =>
    let (num, den) := b.fraction
    let y :=
      if places ≥ 0 then
        if places > 330 then nearest num den
        else nearest (roundDiv (num * Nat.pow 10 places.toNat) den) (Nat.pow 10 places.toNat)
      else if places < -330 then 0.0
      else
        let unit := Nat.pow 10 (-places).toNat
        nearest (roundDiv num (den * unit) * unit) 1
    if b.negative then -y else y
  | _ => x

end ImagePreload.Decimal
