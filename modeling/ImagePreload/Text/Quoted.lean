import ImagePreload.Text.Printable

/-!
# Quoted text

A text in quotes, as diagnostics and printed containers show it. The single quote is the usual
one; a text that holds single quotes and no double ones is put in double quotes. Inside, the
backslash and the quote get a backslash in front, and characters without a visible form are given
by number.
-/

namespace ImagePreload.Text

/-- The hexadecimal digits of a number, with zeros in front up to the given count. -/
def hexPadded (count n : Nat) : List Char :=
  let digits := Nat.toDigits 16 n
  List.replicate (count - digits.length) '0' ++ digits

/-- The quote that surrounds a text with these characters. -/
def quoteFor (cs : List Char) : Char :=
  if cs.contains '\'' && !cs.contains '"' then '"' else '\''

/-- A character inside quotes. -/
def escapeChar (quote c : Char) : List Char :=
  if c == quote || c == '\\' then ['\\', c]
  else if c == '\n' then ['\\', 'n']
  else if c == '\r' then ['\\', 'r']
  else if c == '\t' then ['\\', 't']
  else if isPrintable c then [c]
  else if c.toNat ≤ 0xff then '\\' :: 'x' :: hexPadded 2 c.toNat
  else if c.toNat ≤ 0xffff then '\\' :: 'u' :: hexPadded 4 c.toNat
  else '\\' :: 'U' :: hexPadded 8 c.toNat

def quotedChars (cs : List Char) : List Char :=
  let quote := quoteFor cs
  quote :: cs.flatMap (escapeChar quote) ++ [quote]

/-- A text in quotes. -/
def quoted (s : String) : String := .ofList (quotedChars s.toList)

/-- A byte inside quotes: the printable ASCII characters as themselves, the others by number. -/
def escapeByte (quote : Char) (b : UInt8) : List Char :=
  let c := Char.ofNat b.toNat
  if c == quote || c == '\\' then ['\\', c]
  else if c == '\n' then ['\\', 'n']
  else if c == '\r' then ['\\', 'r']
  else if c == '\t' then ['\\', 't']
  else if 0x20 ≤ b && b < 0x7f then [c]
  else '\\' :: 'x' :: hexPadded 2 b.toNat

/-- A string of bytes in quotes, marked by a `b` in front. -/
def quotedBytes (bs : List UInt8) : String :=
  let quote := quoteFor (bs.map fun b => Char.ofNat b.toNat)
  .ofList ('b' :: quote :: bs.flatMap (escapeByte quote) ++ [quote])

end ImagePreload.Text
