import ImagePreload.Decimal.Display
import ImagePreload.ErrorKind

/-!
# Numbers

A number is an integer of any size or a double. Operations on two integers are exact; as soon as a
double takes part the integer is rounded to one. Comparison never rounds: a double is compared by
its exact value.
-/

namespace ImagePreload

inductive Number where
  | int (n : Int)
  | float (x : Float)

inductive ArithmeticError where
  | divisionByZero
  | floatDivisionByZero
  | floorDivisionByZero
  | moduloByZero
  | floatFloorDivisionByZero
  | floatModuloByZero
  | zeroToNegativePower
  | tooLargeForFloat
  | quotientTooLarge
  | resultOutOfRange
  | infinityToInteger
  | notANumberToInteger
  /-- A root of a negative number. -/
  | noRealResult

def ArithmeticError.message : ArithmeticError → String
  | .divisionByZero => "division by zero"
  | .floatDivisionByZero => "float division by zero"
  | .floorDivisionByZero => "integer division or modulo by zero"
  | .moduloByZero => "integer modulo by zero"
  | .floatFloorDivisionByZero => "float floor division by zero"
  | .floatModuloByZero => "float modulo"
  | .zeroToNegativePower => "0.0 cannot be raised to a negative power"
  | .tooLargeForFloat => "int too large to convert to float"
  | .quotientTooLarge => "integer division result too large for a float"
  | .resultOutOfRange => "(34, 'Numerical result out of range')"
  | .infinityToInteger => "cannot convert float infinity to integer"
  | .notANumberToInteger => "cannot convert float NaN to integer"
  | .noRealResult => "complex result"

def ArithmeticError.kind : ArithmeticError → ErrorKind
  | .tooLargeForFloat | .quotientTooLarge | .resultOutOfRange | .infinityToInteger => .overflow
  | .notANumberToInteger => .value
  | .noRealResult => .type
  | _ => .zeroDivision

namespace Number

open Decimal

/-- The double nearest to an integer. -/
def floatOfInt (n : Int) : Except ArithmeticError Float :=
  let bits := nearestBits n.natAbs 1
  if bits ≥ infinityBits then .error .tooLargeForFloat else .ok (nearestSigned n 1)

def toFloat : Number → Except ArithmeticError Float
  | .int n => floatOfInt n
  | .float x => .ok x

/-- The integer part of a double. -/
def truncate (x : Float) : Except ArithmeticError Int :=
  match shape x with
  | .notANumber => .error .notANumberToInteger
  | .infinite _ => .error .infinityToInteger
  | .finite b => let (n, d) := b.ratio; .ok (n.tdiv d)

def toInt : Number → Except ArithmeticError Int
  | .int n => .ok n
  | .float x => truncate x

/-- The exact value of a finite number as a fraction. -/
def ratio? : Number → Option (Int × Nat)
  | .int n => some (n, 1)
  | .float x =>
    match shape x with
    | .finite b => some b.ratio
    | _ => none

/-- How two numbers compare, if they do. -/
def compare? (a b : Number) : Option Ordering :=
  match a.ratio?, b.ratio? with
  | some (n, d), some (n', d') => some (compare (n * d') (n' * d))
  | _, _ =>
    let infinite (x : Number) : Option Int :=
      match x with
      | .int _ => some 0
      | .float x =>
        match shape x with
        | .finite _ => some 0
        | .infinite negative => some (if negative then -1 else 1)
        | .notANumber => none
    match infinite a, infinite b with
    | some i, some j => some (compare i j)
    | _, _ => none

def equal (a b : Number) : Bool := a.compare? b == some .eq

def less (a b : Number) : Bool := a.compare? b == some .lt

def isZero : Number → Bool
  | .int n => n == 0
  | .float x => x == 0.0

/-- The plain text of a number. -/
def text : Number → String
  | .int n => toString n
  | .float x => floatText x

private def mixed (exact : Int → Int → Int) (rounded : Float → Float → Float) (a b : Number) :
    Except ArithmeticError Number :=
  match a, b with
  | .int m, .int n => .ok (.int (exact m n))
  | _, _ => do return .float (rounded (← a.toFloat) (← b.toFloat))

def add : Number → Number → Except ArithmeticError Number := mixed (· + ·) (· + ·)

def sub : Number → Number → Except ArithmeticError Number := mixed (· - ·) (· - ·)

def mul : Number → Number → Except ArithmeticError Number := mixed (· * ·) (· * ·)

def neg : Number → Number
  | .int n => .int (-n)
  | .float x => .float (-x)

def abs : Number → Number
  | .int n => .int n.natAbs
  | .float x => .float x.abs

/-- The quotient as a double, of two integers the one nearest to the exact quotient. -/
def div (a b : Number) : Except ArithmeticError Number :=
  match a, b with
  | .int m, .int n =>
    if n == 0 then .error .divisionByZero
    else
      let negative := (m < 0) != (n < 0)
      let bits := nearestBits m.natAbs n.natAbs
      if bits ≥ infinityBits then .error .quotientTooLarge
      else
        let x := Float.ofBits (.ofNat bits)
        .ok (.float (if negative && m != 0 then -x else x))
  | _, _ => do
    let x ← a.toFloat
    let y ← b.toFloat
    if y == 0.0 then .error .floatDivisionByZero else return .float (x / y)

/-- The remainder with the sign of the divisor. -/
def floatModulo (x y : Float) : Float :=
  match shape x, shape y with
  | .finite a, .finite b =>
    let (n, d) := a.ratio
    let (n', d') := b.ratio
    -- both over one denominator
    let r := Int.fmod (n * d') (n' * d)
    if r == 0 then if b.negative then -0.0 else 0.0
    else nearestSigned r (d * d')
  | .finite a, .infinite negative => if a.m == 0 || a.negative == negative then x else y
  | _, _ => notANumber

/-- The quotient rounded down, as a double. -/
def floatFloorDiv (x y : Float) : Float :=
  match shape x, shape y with
  | .finite a, .finite b =>
    let (n, d) := a.ratio
    let (n', d') := b.ratio
    let q := Int.fdiv (n * d') (n' * d)
    if q == 0 then if a.negative != b.negative then -0.0 else 0.0 else nearestSigned q 1
  | .finite a, .infinite negative =>
    if a.m == 0 || a.negative == negative then 0.0 else -1.0
  | _, _ => notANumber

def floorDiv (a b : Number) : Except ArithmeticError Number :=
  match a, b with
  | .int m, .int n => if n == 0 then .error .floorDivisionByZero else .ok (.int (Int.fdiv m n))
  | _, _ => do
    let x ← a.toFloat
    let y ← b.toFloat
    if y == 0.0 then .error .floatFloorDivisionByZero else return .float (floatFloorDiv x y)

def mod (a b : Number) : Except ArithmeticError Number :=
  match a, b with
  | .int m, .int n => if n == 0 then .error .moduloByZero else .ok (.int (Int.fmod m n))
  | _, _ => do
    let x ← a.toFloat
    let y ← b.toFloat
    if y == 0.0 then .error .floatModuloByZero else return .float (floatModulo x y)

private def floatPow (x y : Float) : Except ArithmeticError Number :=
  if x == 0.0 && y < 0.0 then .error .zeroToNegativePower
  else if x < 0.0 && x.isFinite && y.isFinite && y.floor != y then .error .noRealResult
  else
    let z := x.pow y
    if z.isInf && x.isFinite && y.isFinite then .error .resultOutOfRange else .ok (.float z)

/-- A power: of integers exact unless the exponent is negative. -/
def pow (a b : Number) : Except ArithmeticError Number :=
  match a, b with
  | .int m, .int n =>
    if n ≥ 0 then .ok (.int (Int.pow m n.toNat))
    else do floatPow (← floatOfInt m) (← floatOfInt n)
  | _, _ => do floatPow (← a.toFloat) (← b.toFloat)

/-- A number rounded to a count of decimal places; an integer stays one. -/
def roundTo (places : Int) : Number → Number
  | .int n =>
    if places ≥ 0 then .int n
    else
      let unit := Nat.pow 10 (-places).toNat
      let r : Int := (roundDiv n.natAbs unit * unit : Nat)
      .int (if n < 0 then -r else r)
  | .float x => .float (roundPlaces x places)

end Number

end ImagePreload
