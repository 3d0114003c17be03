/-!
# Line ends

The three usual ends of a line (line feed, carriage return, both in that order) are one and the
same to a reader of text files. The wider set of boundaries also counts the separators of
paragraphs and information units.
-/

namespace ImagePreload.Text

/-- Every end of a line written as a line feed. -/
def unifyLineEnds : List Char → List Char
  | [] => []
  | '\r' :: '\n' :: cs => '\n' :: unifyLineEnds cs
  | '\r' :: cs => '\n' :: unifyLineEnds cs
  | c :: cs => c :: unifyLineEnds cs

def isLineBoundary (c : Char) : Bool :=
  let n := c.toNat
  (10 ≤ n && n ≤ 13) || (0x1c ≤ n && n ≤ 0x1e) || n == 0x85 || n == 0x2028 || n == 0x2029

/-- The lines of a text with their ends kept. -/
def linesWithEnds : List Char → List (List Char)
  | [] => []
  | '\r' :: '\n' :: cs => ['\r', '\n'] :: linesWithEnds cs
  | c :: cs =>
    if isLineBoundary c then [c] :: linesWithEnds cs
    else
      match linesWithEnds cs with
      | [] => [[c]]
      | line :: lines => (c :: line) :: lines

/-- The lines of a text without their ends. -/
def lines (cs : List Char) : List (List Char) :=
  (linesWithEnds cs).map fun line => line.filter (!isLineBoundary ·)

end ImagePreload.Text
