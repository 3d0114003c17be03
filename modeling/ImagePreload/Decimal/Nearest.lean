/-!
# The double nearest to a fraction

A double is `m · 2 ^ q` with `m < 2 ^ 53` and `q ≥ -1074`. The double nearest to a positive
fraction is found in exact arithmetic: `q` is the least exponent that leaves at most 53 bits in
front of the point, and the quotient at that scale is rounded, a half going to the even neighbour.
-/

namespace ImagePreload.Decimal

/-- The quotient rounded to the nearest integer, a half to the even one. -/
def roundDiv (num den : Nat) : Nat :=
  let q := num / den
  let r := num % den
  if 2 * r < den then q else if den < 2 * r then q + 1 else q + q % 2

/-- `num / den` at the scale `2 ^ q`, rounded. -/
def scaledDiv (num den : Nat) (q : Int) : Nat :=
  if q ≥ 0 then roundDiv num (den * Nat.pow 2 q.toNat)
  else roundDiv (num * Nat.pow 2 (-q).toNat) den

/-- The exponent of the double nearest to a positive fraction. -/
def binaryExponent (num den : Nat) : Int :=
  let l : Int := (num.log2 : Int) - den.log2
  let belowPower :=
    if l ≥ 0 then num < den * Nat.pow 2 l.toNat else num * Nat.pow 2 (-l).toNat < den
  max (if belowPower then l - 53 else l - 52) (-1074)

def infinityBits : Nat := 0x7ff0000000000000

/-- The bits of the double nearest to a fraction that is not negative. -/
def nearestBits (num den : Nat) : Nat :=
  if num == 0 || den == 0 then 0
  else
    let q := binaryExponent num den
    let m := scaledDiv num den q
    let bits :=
      if m < Nat.pow 2 52 then m else (q + 1075).toNat * Nat.pow 2 52 + (m - Nat.pow 2 52)
    min bits infinityBits

/-- The double nearest to a fraction that is not negative. -/
def nearest (num den : Nat) : Float := .ofBits (.ofNat (nearestBits num den))

/-- The double nearest to a fraction. -/
def nearestSigned (num : Int) (den : Nat) : Float :=
  if num < 0 then -(nearest num.natAbs den) else nearest num.natAbs den

/-- A finite double taken apart: its sign, and `m · 2 ^ q`. -/
structure Binary where
  negative : Bool
  m : Nat
  q : Int

inductive FloatShape where
  | finite (b : Binary)
  | infinite (negative : Bool)
  | notANumber

/-- What a double's bits say. -/
def shape (x : Float) : FloatShape :=
  let word : Nat := x.toBits.toNat
  let negative := word ≥ Nat.pow 2 63
  let bits : Nat := word % Nat.pow 2 63
  let e : Nat := bits / Nat.pow 2 52
  let f : Nat := bits % Nat.pow 2 52
  if e == 0x7ff then if f == 0 then .infinite negative else .notANumber
  else if e == 0 then .finite ⟨negative, f, -1074⟩
  else .finite ⟨negative, f + Nat.pow 2 52, (e : Int) - 1075⟩

/-- The absolute value as a fraction. -/
def Binary.fraction (b : Binary) : Nat × Nat :=
  if b.q ≥ 0 then (b.m * Nat.pow 2 b.q.toNat, 1) else (b.m, Nat.pow 2 (-b.q).toNat)

/-- The signed value as a fraction. -/
def Binary.ratio (b : Binary) : Int × Nat :=
  let (n, d) := b.fraction
  (if b.negative then -(n : Int) else n, d)

def infinity : Float := .ofBits 0x7ff0000000000000

def notANumber : Float := .ofBits 0x7ff8000000000000

end ImagePreload.Decimal
