import ImagePreload.Yaml.Error

/-!
# A place in a document's text

A cursor holds the text that is left and where it starts. The end of the text reads as a character
that no document may contain, so every look ahead has an answer.
-/

namespace ImagePreload.Yaml

/-- What is read behind the end of the text. -/
def endMark : Char := '\x00'

/-- A character that ends a line. -/
def isBreak (c : Char) : Bool :=
  c == '\n' || c == '\r' || c == '\x85' || c == '\u2028' || c == '\u2029'

def isBreakOrEnd (c : Char) : Bool := c == endMark || isBreak c

/-- The narrower class that ends comments and the lines of block scalars. -/
def endsLine (c : Char) : Bool := c == endMark || c == '\n' || c == '\r' || c == '\x85'

def isSpaceOrTab (c : Char) : Bool := c == ' ' || c == '\t'

/-- What has to follow an indicator. -/
def endsIndicator (c : Char) : Bool := endsLine c || isSpaceOrTab c

def isAsciiWord (c : Char) : Bool := c.isAlphanum || c == '-' || c == '_'

structure Cursor where
  rest : List Char
  index : Nat
  line : Nat
  column : Nat

namespace Cursor

def start (text : List Char) : Cursor := ⟨text, 0, 0, 0⟩

def peekAt (c : Cursor) (k : Nat) : Char := (c.rest[k]?).getD endMark

def peek (c : Cursor) : Char := c.rest.headD endMark

def atEnd (c : Cursor) : Bool := c.rest.isEmpty

/-- One character on; a byte order mark takes no column. -/
def next (c : Cursor) : Cursor :=
  match c.rest with
  | [] => c
  | ch :: rest =>
    let breaks :=
      ch == '\n' || ch == '\x85' || ch == '\u2028' || ch == '\u2029'
        || (ch == '\r' && rest.head? != some '\n')
    if breaks then ⟨rest, c.index + 1, c.line + 1, 0⟩
    else ⟨rest, c.index + 1, c.line, if ch == '\ufeff' then c.column else c.column + 1⟩

def skip (c : Cursor) : Nat → Cursor
  | 0 => c
  | n + 1 => c.next.skip n

/-- The characters at the front that satisfy a test, and the cursor behind them. -/
def takeWhile (c : Cursor) (p : Char → Bool) : List Char × Cursor :=
  let taken := c.rest.takeWhile p
  (taken, c.skip taken.length)

def dropWhile (c : Cursor) (p : Char → Bool) : Cursor := (c.takeWhile p).2

def startsWith (c : Cursor) (part : String) : Bool := part.toList.isPrefixOf c.rest

/-- A line of three equal marks that separates documents. -/
def atMarker (c : Cursor) (marker : String) : Bool :=
  c.startsWith marker && endsIndicator (c.peekAt 3)

def atSeparator (c : Cursor) : Bool := c.atMarker "---" || c.atMarker "..."

/-- Reads one end of a line; every usual one counts as a line feed. -/
def takeBreak (c : Cursor) : List Char × Cursor :=
  let ch := c.peek
  if ch == '\r' || ch == '\n' || ch == '\x85' then
    (['\n'], if c.startsWith "\r\n" then c.skip 2 else c.next)
  else if ch == '\u2028' || ch == '\u2029' then ([ch], c.next)
  else ([], c)

end Cursor

end ImagePreload.Yaml
