import ImagePreload.Text.Digit
import ImagePreload.Text.Search

/-!
# Control sequences of terminals

A sequence starts with the escape character and a bracket. One with an opening bracket holds numbers
and ends with a letter; one with a closing bracket holds anything and ends with a bell.
-/

namespace ImagePreload.Text

/-- The text without a given character at the front. -/
def dropFirst (c : Char) : List Char → List Char
  | [] => []
  | d :: cs => if d == c then cs else d :: cs

/-- The text behind a sequence of numbers at the front, which may stand between marks of its own. -/
def afterNumbers? (cs : List Char) : Option (List Char) :=
  match dropFirst '\x01' cs with
  | '\x1b' :: '[' :: cs =>
    match cs.dropWhile fun c => isDecimalDigit c || c == ';' with
    | c :: rest => if c.isAlpha then some (dropFirst '\x02' rest) else none
    | [] => none
  | _ => none

/-- The text behind a sequence that ends with a bell. -/
def afterBell? (cs : List Char) : Option (List Char) :=
  match dropFirst '\x01' cs with
  | '\x1b' :: ']' :: cs =>
    match cs.dropWhile (· != '\x07') with
    | _ :: rest => some (dropFirst '\x02' rest)
    | [] => none
  | _ => none

private def dropSequences : Nat → List Char → List Char
  | 0, cs => cs
  | _, [] => []
  | fuel + 1, c :: cs =>
    match afterNumbers? (c :: cs), afterBell? (c :: cs) with
    | some rest, _ => dropSequences fuel rest
    | none, some rest => dropSequences fuel rest
    | none, none => c :: dropSequences fuel cs

/-- A text without control sequences. -/
def withoutSequences (s : String) : String := .ofList (dropSequences s.length s.toList)

end ImagePreload.Text
