/-!
# Sets of code points

A set of code points is kept as an array of arithmetic progressions in ascending order, and
written as lines of hexadecimal numbers: `41-5a` is a closed range, `100-12e/2` takes every second
code point of it, and `aa` is a single one. Membership is a binary search for the last progression
that does not start behind the code point.
-/

namespace ImagePreload.Text

/-- The code points `first`, `first + step`, … up to `last`. -/
structure Progression where
  first : Nat
  last : Nat
  step : Nat := 1

def Progression.contains (p : Progression) (code : Nat) : Bool :=
  p.first ≤ code && code ≤ p.last && (code - p.first) % p.step == 0

/-- A set of code points, as progressions in ascending order. -/
structure Ranges where
  parts : Array Progression

def hexValue (s : List Char) : Nat :=
  s.foldl (fun n c =>
    if c.isDigit then 16 * n + (c.toNat - 48) else 16 * n + (c.toNat - 87)) 0

/-- Splits a text at every occurrence of a character. -/
def splitAtChar (sep : Char) : List Char → List (List Char)
  | [] => [[]]
  | c :: cs =>
    match splitAtChar sep cs with
    | [] => [[c]]
    | part :: parts => if c == sep then [] :: part :: parts else (c :: part) :: parts

private def readProgression (s : List Char) : Progression :=
  let (range, step) := (s.takeWhile (· != '/'), (s.dropWhile (· != '/')).drop 1)
  let (first, last) := (range.takeWhile (· != '-'), (range.dropWhile (· != '-')).drop 1)
  { first := hexValue first
    last := hexValue (if last.isEmpty then first else last)
    step := if step.isEmpty then 1 else hexValue step }

/-- Reads the written form of a set, which may take several lines. -/
def Ranges.read (lines : List String) : Ranges :=
  ⟨(lines.flatMap fun line => (splitAtChar ' ' line.toList).map readProgression).toArray⟩

/-- The number of progressions that start at or before the code point, found by halving. -/
private def Ranges.searchFrom (r : Ranges) (code : Nat) : Nat → Nat → Nat → Nat
  | 0, lo, _ => lo
  | fuel + 1, lo, hi =>
    if lo ≥ hi then lo
    else
      let mid := (lo + hi) / 2
      match r.parts[mid]? with
      | some p =>
        if p.first ≤ code then r.searchFrom code fuel (mid + 1) hi
        else r.searchFrom code fuel lo mid
      | none => lo

def Ranges.containsCode (r : Ranges) (code : Nat) : Bool :=
  match r.searchFrom code (r.parts.size + 1) 0 r.parts.size with
  | 0 => false
  | n + 1 => (r.parts[n]?.map (·.contains code)).getD false

def Ranges.contains (r : Ranges) (c : Char) : Bool := r.containsCode c.toNat

end ImagePreload.Text
