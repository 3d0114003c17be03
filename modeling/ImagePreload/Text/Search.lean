/-!
# Search, replacement and division of texts

Texts are lists of characters here. A search takes the leftmost occurrence and goes on behind it.
-/

namespace ImagePreload.Text

/-- What is left behind `part`, if the text starts with it. -/
def dropPart? : (part text : List Char) → Option (List Char)
  | [], text => some text
  | _ :: _, [] => none
  | p :: ps, c :: cs => if p == c then dropPart? ps cs else none

/-- The text before and behind the first occurrence of `part`. -/
def breakAt? (part : List Char) : List Char → Option (List Char × List Char)
  | [] => if part.isEmpty then some ([], []) else none
  | c :: cs =>
    match dropPart? part (c :: cs) with
    | some rest => some ([], rest)
    | none => (breakAt? part cs).map fun (before, rest) => (c :: before, rest)

/-- The text before and behind the last occurrence of `part`. -/
def breakAtLast? (part text : List Char) : Option (List Char × List Char) :=
  (breakAt? part.reverse text.reverse).map fun (after, before) => (before.reverse, after.reverse)

/-- Whether `part` occurs in the text. -/
def occursIn (part text : List Char) : Bool := (breakAt? part text).isSome

/-- The position of the first occurrence. -/
def find? (part text : List Char) : Option Nat := (breakAt? part text).map (·.1.length)

private def splitFuel (sep : List Char) : Nat → Option Nat → List Char → List (List Char)
  | 0, _, text => [text]
  | _ + 1, some 0, text => [text]
  | fuel + 1, limit, text =>
    match breakAt? sep text with
    | none => [text]
    | some (before, rest) => before :: splitFuel sep fuel (limit.map (· - 1)) rest

/-- The parts between the occurrences of a non-empty separator, cut at most `limit` times. -/
def splitOn (sep : List Char) (limit : Option Nat) (text : List Char) : List (List Char) :=
  splitFuel sep (text.length + 1) limit text

/-- The parts between the occurrences of a non-empty separator, cut from the end. -/
def splitOnEnd (sep : List Char) (limit : Option Nat) (text : List Char) : List (List Char) :=
  ((splitOn sep.reverse limit text.reverse).map List.reverse).reverse

/-- Parts joined with a separator in between. -/
def joinWith (sep : List Char) : List (List Char) → List Char
  | [] => []
  | [part] => part
  | part :: parts => part ++ sep ++ joinWith sep parts

private def replaceEmpty (new : List Char) : Option Nat → List Char → List Char
  | some 0, cs => cs
  | _, [] => new
  | limit, c :: cs => new ++ c :: replaceEmpty new (limit.map (· - 1)) cs

/-- Every occurrence replaced, at most `limit` of them from the left. An empty text is found
before every character and at the end. -/
def replace (part new : List Char) (limit : Option Nat) (text : List Char) : List Char :=
  if part.isEmpty then replaceEmpty new limit text
  else joinWith new (splitOn part limit text)

/-- How many occurrences there are that do not overlap. -/
def count (part text : List Char) : Nat :=
  if part.isEmpty then text.length + 1 else (splitOn part none text).length - 1

def joinStrings (sep : String) (parts : List String) : String := sep.intercalate parts

end ImagePreload.Text
