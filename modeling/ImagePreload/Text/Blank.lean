/-!
# White space

A blank is any white-space character, the separators of the other scripts and the information
separators of the controls included. Zero-width characters are no blanks.
-/

namespace ImagePreload.Text

def isBlank (c : Char) : Bool :=
  let n := c.toNat
  (9 ≤ n && n ≤ 13) || (0x1c ≤ n && n ≤ 0x20) || n == 0x85 || n == 0xa0 || n == 0x1680
    || (0x2000 ≤ n && n ≤ 0x200a) || n == 0x2028 || n == 0x2029 || n == 0x202f || n == 0x205f
    || n == 0x3000

def dropBlanks (cs : List Char) : List Char := cs.dropWhile isBlank

def dropEndBlanks (cs : List Char) : List Char := (cs.reverse.dropWhile isBlank).reverse

/-- The text without the blanks around it. -/
def stripBlanks (cs : List Char) : List Char := dropEndBlanks (dropBlanks cs)

/-- The text without the blanks around it. -/
def strip (s : String) : String := .ofList (stripBlanks s.toList)

/-- The runs of characters between blanks. -/
def words (cs : List Char) : List (List Char) :=
  let (current, done) := cs.foldr (fun c (current, done) =>
    if isBlank c then ([], if current.isEmpty then done else current :: done)
    else (c :: current, done)) (([] : List Char), ([] : List (List Char)))
  if current.isEmpty then done else current :: done

end ImagePreload.Text
