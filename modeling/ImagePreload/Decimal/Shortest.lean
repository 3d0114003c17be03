import ImagePreload.Decimal.Nearest

/-!
# The shortest decimal that reads back

Between a double and its two neighbours lie the reals that round to it, an interval that owns its
ends when the mantissa is even. The shortest decimal takes the first count of digits for which one
of the two decimals around the value lies in that interval, and the nearer of the two when both do.
-/

namespace ImagePreload.Decimal

/-- A positive decimal number `digits · 10 ^ exponent`. -/
structure Digits where
  digits : Nat
  exponent : Int

/-- The reals that round to `m · 2 ^ q`, over one denominator. -/
structure Rounding where
  low : Nat
  value : Nat
  high : Nat
  den : Nat
  closed : Bool

def Rounding.of (b : Binary) : Rounding :=
  let narrow := b.m == Nat.pow 2 52 && b.q > -1074
  let low := if narrow then 4 * b.m - 1 else 4 * b.m - 2
  let scale := if b.q ≥ 0 then Nat.pow 2 b.q.toNat else 1
  { low := low * scale
    value := 4 * b.m * scale
    high := (4 * b.m + 2) * scale
    den := if b.q ≥ 0 then 4 else 4 * Nat.pow 2 (-b.q).toNat
    closed := b.m % 2 == 0 }

/-- `digits · 10 ^ exponent`, scaled by the denominator, against a bound on the same scale: both
sides as natural numbers. -/
def scaledPair (digits : Nat) (exponent : Int) (den bound : Nat) : Nat × Nat :=
  if exponent ≥ 0 then (digits * Nat.pow 10 exponent.toNat * den, bound)
  else (digits * den, bound * Nat.pow 10 (-exponent).toNat)

/-- Whether a decimal rounds to the double. -/
def Rounding.holds (r : Rounding) (digits : Nat) (exponent : Int) : Bool :=
  let (x, low) := scaledPair digits exponent r.den r.low
  let (_, high) := scaledPair digits exponent r.den r.high
  if r.closed then low ≤ x && x ≤ high else low < x && x < high

/-- The least `k` with `value < 10 ^ k`. -/
def decimalPoint (num den : Nat) : Int :=
  let below (k : Int) : Bool :=
    if k ≥ 0 then num < den * Nat.pow 10 k.toNat else num * Nat.pow 10 (-k).toNat < den
  let guess : Int := (((num.log2 : Int) - den.log2) * 30103) / 100000 - 1
  if below guess then guess
  else if below (guess + 1) then guess + 1
  else if below (guess + 2) then guess + 2
  else guess + 3

/-- Trailing zeros moved into the exponent. -/
def Digits.trim (d : Digits) : Nat → Digits
  | 0 => d
  | n + 1 => if d.digits != 0 && d.digits % 10 == 0
             then Digits.trim ⟨d.digits / 10, d.exponent + 1⟩ n else d

/-- The candidate with `count` digits, if one of the two around the value rounds to it. -/
def Rounding.candidate? (r : Rounding) (point : Int) (count : Nat) : Option Digits :=
  let exponent := point - count
  let below :=
    if exponent ≥ 0 then r.value / (r.den * Nat.pow 10 exponent.toNat)
    else r.value * Nat.pow 10 (-exponent).toNat / r.den
  let (x, v) := scaledPair below exponent r.den r.value
  let (y, _) := scaledPair (below + 1) exponent r.den r.value
  let pick :=
    match r.holds below exponent && below != 0, r.holds (below + 1) exponent with
    | true, true =>
      if v - x < y - v then some below
      else if y - v < v - x then some (below + 1)
      else some (below + below % 2)
    | true, false => some below
    | false, true => some (below + 1)
    | false, false => none
  pick.map fun digits => Digits.trim ⟨digits, exponent⟩ 20

/-- The shortest decimal that rounds to a positive double. -/
def shortest (b : Binary) : Digits :=
  let r := Rounding.of b
  let point := decimalPoint r.value r.den
  ((List.range 17).findSome? fun i => r.candidate? point (i + 1)).getD ⟨0, 0⟩

end ImagePreload.Decimal
