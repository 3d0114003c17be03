import ImagePreload.Decimal.Reading
import ImagePreload.Text.Ranges

/-!
# Durations

A duration is `0` or a row of components such as `1m30s`, each a number with an optional fraction
and one of the units `ms`, `s`, `m` and `h`. Blanks around it do not count. It stands for the sum of
its components in seconds, added up from the left.
-/

namespace ImagePreload

namespace Duration

inductive Scale where
  | milliseconds
  | seconds
  | minutes
  | hours
  deriving DecidableEq, Repr

/-- What one of a unit is in seconds. -/
def Scale.factor : Scale → Float
  | .milliseconds => 0.001
  | .seconds => 1
  | .minutes => 60
  | .hours => 3600

/-- A number and its unit; the digits behind the point are absent when there is no point. -/
structure Component where
  whole : List Char
  behind : Option (List Char)
  scale : Scale
  deriving DecidableEq, Repr

private def digits (cs : List Char) : List Nat := cs.map fun c => c.toNat - 48

def Component.amount (c : Component) : Float :=
  Decimal.ofPlaces (digits c.whole) (digits (c.behind.getD []))

def Component.seconds (c : Component) : Float := c.amount * c.scale.factor

/-- The unit at the front of a text; `ms` is not a minute followed by a second. -/
def takeScale : List Char → Option (Scale × List Char)
  | 'm' :: 's' :: rest => some (.milliseconds, rest)
  | 's' :: rest => some (.seconds, rest)
  | 'm' :: rest => some (.minutes, rest)
  | 'h' :: rest => some (.hours, rest)
  | _ => none

/-- The fraction at the front of a text, a point with at least one digit behind it. -/
def takeFraction : List Char → Option (List Char) × List Char
  | '.' :: rest =>
    match rest.takeWhile Char.isDigit with
    | [] => (none, '.' :: rest)
    | ds => (some ds, rest.dropWhile Char.isDigit)
  | cs => (none, cs)

/-- The component at the front of a text. -/
def takeComponent (cs : List Char) : Option (Component × List Char) :=
  match cs.takeWhile Char.isDigit with
  | [] => none
  | whole =>
    let (behind, rest) := takeFraction (cs.dropWhile Char.isDigit)
    (takeScale rest).map fun (scale, rest) => (⟨whole, behind, scale⟩, rest)

/-- The components a text consists of. -/
def components? (cs : List Char) : Option (List Component) :=
  match cs with
  | [] => some []
  | c :: cs =>
    match takeComponent (c :: cs) with
    | none => none
    | some (component, rest) =>
      if _ : rest.length < (c :: cs).length then (components? rest).map (component :: ·) else none
termination_by cs.length
decreasing_by assumption

/-- The sum of components in seconds, from the left. -/
def total (parts : List Component) : Float := parts.foldl (fun t c => t + c.seconds) 0

end Duration

/-- A text that is no duration. -/
structure DurationError where
  text : String
  deriving DecidableEq, Repr

def DurationError.message (e : DurationError) : String := "Invalid duration " ++ e.text ++ "."

/-- The seconds a written duration stands for. -/
def parseDuration (s : String) : Except DurationError Float :=
  match Text.stripBlanks s.toList with
  | ['0'] => .ok 0
  | cs =>
    match Duration.components? cs with
    | some (part :: parts) => .ok (Duration.total (part :: parts))
    | _ => .error ⟨.ofList cs⟩

end ImagePreload
