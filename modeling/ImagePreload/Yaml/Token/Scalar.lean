import ImagePreload.Text.Digit
import ImagePreload.Yaml.Cursor

/-!
# Scalars in a document's text

A scalar is plain, quoted or a block. In plain and quoted scalars a single end of a line is a space
and each empty line a line feed; in blocks the header says how lines are joined and what becomes of
the ones at the end.
-/

namespace ImagePreload.Yaml

/-! ## Quoted scalars -/

/-- What a letter stands for behind a backslash. -/
def escaped? : Char → Option Char
  | '0' => some '\x00'
  | 'a' => some '\x07'
  | 'b' => some '\x08'
  | 't' => some '\t'
  | '\t' => some '\t'
  | 'n' => some '\n'
  | 'v' => some '\x0b'
  | 'f' => some '\x0c'
  | 'r' => some '\r'
  | 'e' => some '\x1b'
  | ' ' => some ' '
  | '"' => some '"'
  | '/' => some '/'
  | '\\' => some '\\'
  | 'N' => some '\x85'
  | '_' => some '\xa0'
  | 'L' => some '\u2028'
  | 'P' => some '\u2029'
  | _ => none

/-- How many hexadecimal digits follow a letter behind a backslash. -/
def escapeLength? : Char → Option Nat
  | 'x' => some 2
  | 'u' => some 4
  | 'U' => some 8
  | _ => none

/-- The empty lines at the front of a continued quoted scalar. -/
def quotedBreaks : Nat → Cursor → Load (List Char × Cursor)
  | 0, _ => flawed .quoted
  | fuel + 1, c =>
    if c.atSeparator then flawed .separator
    else
      let c := c.dropWhile isSpaceOrTab
      if isBreak c.peek then do
        let (br, c) := c.takeBreak
        let (rest, c) ← quotedBreaks fuel c
        return (br ++ rest, c)
      else return ([], c)

/-- The blanks at the front of a quoted scalar: kept inside a line, folded at the end of one. -/
def quotedSpaces (c : Cursor) : Load (List Char × Cursor) := do
  let (blanks, c) := c.takeWhile isSpaceOrTab
  if c.atEnd then flawed .endOfText
  else if isBreak c.peek then
    let (br, c) := c.takeBreak
    let (breaks, c) ← quotedBreaks (c.rest.length + 1) c
    let first := if br != ['\n'] then br else if breaks.isEmpty then [' '] else []
    return (first ++ breaks, c)
  else return (blanks, c)

/-- The character with a code point given by hexadecimal digits; two halves of a surrogate pair
stand for one character. A text holds no half without the other: a half that stands alone counts as
the replacement character here, so what comes of such a half is outside of what is described. -/
def codePoint (code : Nat) (c : Cursor) : Load (Char × Cursor) :=
  if code ≥ 0x110000 then .error .codePoint
  else if 0xd800 ≤ code && code < 0xdc00 && c.startsWith "\\u" then
    let low := (c.rest.drop 2).take 4
    let n := low.foldl (fun n d => n * 16 + (Text.baseDigit? 16 d).getD 0) 0
    if low.length == 4 && 0xdc00 ≤ n && n < 0xe000 then
      return (Char.ofNat (0x10000 + (code - 0xd800) * 0x400 + (n - 0xdc00)), c.skip 6)
    else return ('\ufffd', c)
  else if 0xd800 ≤ code && code < 0xe000 then return ('\ufffd', c)
  else return (Char.ofNat code, c)

/-- What a backslash in front of the cursor stands for. -/
def takeEscape (c : Cursor) : Load (List Char × Cursor) :=
  let ch := c.peek
  match escaped? ch, escapeLength? ch with
  | some image, _ => return ([image], c.next)
  | none, some n => do
    let c := c.next
    let digits := c.rest.take n
    if digits.length == n && digits.all fun d => (Text.baseDigit? 16 d).isSome then
      let code := digits.foldl (fun v d => v * 16 + (Text.baseDigit? 16 d).getD 0) 0
      let (image, c) ← codePoint code (c.skip n)
      return ([image], c)
    else flawed .escape
  | none, none =>
    if isBreak ch then
      let (_, c) := c.takeBreak
      quotedBreaks (c.rest.length + 1) c
    else flawed .escape

private def stopsQuoted (c : Char) : Bool :=
  isBreakOrEnd c || isSpaceOrTab c || c == '\'' || c == '"' || c == '\\'

/-- The text of a quoted scalar up to its closing quote, from behind the opening one. -/
def quotedFrom (double : Bool) : Nat → Cursor → List Char → Load (List Char × Cursor)
  | 0, _, _ => flawed .quoted
  | fuel + 1, c, done => do
    let (taken, c) := c.takeWhile (!stopsQuoted ·)
    let done := done ++ taken
    let ch := c.peek
    if c.atEnd then flawed .endOfText
    else if !double && ch == '\'' && c.peekAt 1 == '\'' then
      quotedFrom double fuel (c.skip 2) (done ++ ['\''])
    else if ch == (if double then '"' else '\'') then return (done, c.next)
    else if (double && ch == '\'') || (!double && (ch == '"' || ch == '\\')) then
      quotedFrom double fuel c.next (done ++ [ch])
    else if double && ch == '\\' then
      let (image, c) ← takeEscape c.next
      quotedFrom double fuel c (done ++ image)
    else
      let (blanks, c) ← quotedSpaces c
      quotedFrom double fuel c (done ++ blanks)

/-- A quoted scalar, from its opening quote. -/
def takeQuoted (c : Cursor) : Load (String × Cursor) := do
  let (cs, c) ← quotedFrom (c.peek == '"') (c.rest.length + 1) c.next []
  return (String.ofList cs, c)

/-! ## Plain scalars -/

/-- What the scanner knows where a plain scalar starts. -/
structure PlainContext where
  /-- The least column of a continuation line. -/
  indent : Int
  inFlow : Bool
  /-- Whether the older version's rules hold. -/
  old : Bool

private def stopsPlain (ctx : PlainContext) (ch following : Char) : Bool :=
  if ch == ':' && !endsIndicator following then false
  else if ch == '?' && !ctx.old then false
  else endsIndicator ch
    || (!ctx.inFlow && ch == ':' && endsIndicator following)
    || (ctx.inFlow && (ch == ',' || ch == ':' || ch == '?' || ch == '[' || ch == ']'
          || ch == '\x7b' || ch == '\x7d'))

/-- How many characters of a line belong to a plain scalar. -/
def plainLength (ctx : PlainContext) : List Char → Nat
  | [] => 0
  | ch :: rest =>
    if stopsPlain ctx ch (rest.headD endMark) then 0 else 1 + plainLength ctx rest

/-- Empty lines and indentation in front of a continuation line; none if a separator follows. -/
def plainBreaks : Nat → Cursor → Option (List Char) × Cursor
  | 0, c => (some [], c)
  | fuel + 1, c =>
    let c := c.dropWhile (· == ' ')
    if isBreak c.peek then
      let (br, c) := c.takeBreak
      if c.atSeparator then (none, c)
      else
        match plainBreaks fuel c with
        | (some rest, c) => (some (br ++ rest), c)
        | (none, c) => (none, c)
    else (some [], c)

/-- The blanks behind a part of a plain scalar, empty when the scalar cannot go on, and whether an
end of a line was among them. -/
def plainSpaces (c : Cursor) : List Char × Bool × Cursor :=
  let (blanks, c) := c.takeWhile (· == ' ')
  if isBreak c.peek then
    let (br, c) := c.takeBreak
    if c.atSeparator then ([], true, c)
    else
      match plainBreaks (c.rest.length + 1) c with
      | (none, c) => ([], true, c)
      | (some breaks, c) =>
        let first := if br != ['\n'] then br else if breaks.isEmpty then [' '] else []
        (first ++ breaks, true, c)
  else (blanks, false, c)

/-- A plain scalar, and whether the cursor stands at the start of a line behind it. -/
def plainFrom (ctx : PlainContext) :
    Nat → Cursor → List Char → List Char → Bool → List Char × Bool × Cursor
  | 0, c, done, _, broke => (done, broke, c)
  | fuel + 1, c, done, spaces, broke =>
    if c.peek == '#' then (done, broke, c)
    else
      match plainLength ctx c.rest with
      | 0 => (done, broke, c)
      | n + 1 =>
        let done := done ++ spaces ++ c.rest.take (n + 1)
        let (spaces, broke, c) := plainSpaces (c.skip (n + 1))
        if spaces.isEmpty || c.peek == '#' || (!ctx.inFlow && (c.column : Int) < ctx.indent) then
          (done, broke, c)
        else plainFrom ctx fuel c done spaces broke

def takePlain (ctx : PlainContext) (c : Cursor) : Load (String × Bool × Cursor) :=
  let n := plainLength ctx c.rest
  let following := c.peekAt (n + 1)
  if ctx.old && ctx.inFlow && c.peekAt n == ':'
      && !(isBreakOrEnd following || isSpaceOrTab following || following == ','
            || following == '[' || following == ']' || following == '\x7b' || following == '\x7d')
  then flawed .content
  else
    let (cs, broke, c) := plainFrom ctx (c.rest.length + 1) c [] [] false
    return (String.ofList cs, broke, c)

/-! ## Block scalars -/

/-- What becomes of the line ends behind a block scalar. -/
inductive Chomping where
  | clip
  | strip
  | keep

structure BlockHeader where
  chomping : Chomping
  increment : Option Nat

private def takeChomping (c : Cursor) : Option Chomping × Cursor :=
  if c.peek == '+' then (some .keep, c.next)
  else if c.peek == '-' then (some .strip, c.next)
  else (none, c)

private def takeIncrement (c : Cursor) : Load (Option Nat × Cursor) :=
  if c.peek == '0' then flawed .header
  else if c.peek.isDigit then return (some (c.peek.toNat - 48), c.next)
  else return (none, c)

/-- The rest of a header line: blanks and a comment. -/
def dropHeaderEnd (c : Cursor) : Load Cursor :=
  let c := c.dropWhile (· == ' ')
  let c := if c.peek == '#' then c.dropWhile (!endsLine ·) else c
  if isBreakOrEnd c.peek then return c.takeBreak.2 else flawed .header

def takeHeader (c : Cursor) : Load (BlockHeader × Cursor) := do
  let (chomping, c) := takeChomping c
  let (increment, c) ← takeIncrement c
  let (late, c) := if chomping.isNone then takeChomping c else (none, c)
  if isBreakOrEnd c.peek || c.peek == ' ' then
    let c ← dropHeaderEnd c
    return (⟨(chomping.orElse fun _ => late).getD .clip, increment⟩, c)
  else flawed .header

/-- The empty lines in front of a block without a given indentation, and the widest indentation
among them. -/
def blockIndentation : Nat → Cursor → Option Nat → Nat → List Char → Load (List Char × Nat × Cursor)
  | 0, _, _, _, _ => flawed .indentation
  | fuel + 1, c, first, widest, done =>
    if c.peek == ' ' then
      let c := c.next
      blockIndentation fuel c first (max widest c.column) done
    else if isBreak c.peek then
      let first := first.orElse fun _ => some c.column
      let (br, c) := c.takeBreak
      blockIndentation fuel c first widest (done ++ br)
    else
      match first with
      | some n => if 0 < n && n < widest then flawed .indentation else return (done, widest, c)
      | none => return (done, widest, c)

/-- The empty lines in front of a line of a block with the given indentation. -/
def blockBreaks (indent : Nat) : Nat → Cursor → List Char × Cursor
  | 0, c => ([], c)
  | fuel + 1, c =>
    let c := c.skip ((c.rest.take (indent - c.column)).takeWhile (· == ' ')).length
    if isBreak c.peek then
      let (br, c) := c.takeBreak
      let (rest, c) := blockBreaks indent fuel c
      (br ++ rest, c)
    else ([], c)

/-- The lines of a block: the text so far, the end of its last line and the empty lines behind. -/
def blockLines (folded topLevel : Bool) (indent : Nat) :
    Nat → Cursor → List Char → List Char → List Char × List Char × List Char × Cursor
  | 0, c, done, breaks => (done, [], breaks, c)
  | fuel + 1, c, done, breaks =>
    let done := done ++ breaks
    let flush := !isSpaceOrTab c.peek
    let (taken, c) := c.takeWhile (!endsLine ·)
    let done := done ++ taken
    let (br, c) := c.takeBreak
    let (breaks, c) := blockBreaks indent (c.rest.length + 1) c
    if topLevel && c.column == 0 && c.atSeparator then (done, br, breaks, c)
    else if c.column == indent && !c.atEnd then
      let joint :=
        if folded && br == ['\n'] && flush && !isSpaceOrTab c.peek then
          if breaks.isEmpty then [' '] else []
        else br
      blockLines folded topLevel indent fuel c (done ++ joint) breaks
    else (done, br, breaks, c)

/-- A block scalar, from its indicator, inside a block at the given indentation. -/
def takeBlock (outer : Int) (c : Cursor) : Load (String × Cursor) := do
  let folded := c.peek == '>'
  let (header, c) ← takeHeader c.next
  let least := (outer + 1).toNat
  let (breaks, indent, c) ←
    match header.increment with
    | none => do
      let (breaks, widest, c) ← blockIndentation (c.rest.length + 1) c none 0 []
      pure (breaks, max least widest, c)
    | some n =>
      let indent := max least 1 + n - 1
      let (breaks, c) := blockBreaks indent (c.rest.length + 1) c
      pure (breaks, indent, c)
  let (text, br, breaks, c) :=
    if c.column == indent && !c.atEnd then
      let rootless := least == 0 && header.increment.isNone
      blockLines folded rootless indent (c.rest.length + 1) c [] breaks
    else ([], [], breaks, c)
  let text :=
    match header.chomping with
    | .strip => text
    | .clip => text ++ br
    | .keep => text ++ br ++ breaks
  return (String.ofList text, c)

end ImagePreload.Yaml
