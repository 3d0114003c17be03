import ImagePreload.Text.Utf8
import ImagePreload.Yaml.Token
import ImagePreload.Yaml.Token.Scalar

/-!
# From text to tokens

The scanner reads one token after the other and keeps the columns of the blocks that are open. A
mapping key is recognised only when its colon turns up, so each scalar, tag, anchor or flow
collection that could be a key is remembered with the number of its token, and the key token, and if
need be the start of the block, is put in front of it later. A remembered key lapses at the end of
its line or after 1024 characters.
-/

namespace ImagePreload.Yaml

/-- A place where a key may have started. -/
structure PossibleKey where
  token : Nat
  /-- Whether nothing but a key can stand there. -/
  required : Bool
  index : Nat
  line : Nat
  column : Nat

structure Scanner where
  cursor : Cursor
  tokens : Array Token
  /-- The column of the innermost block, or -1. -/
  indent : Int
  indents : List Int
  /-- The brackets that are open, the innermost first. -/
  brackets : List Char
  keyAllowed : Bool
  /-- The possible key of every level of brackets. -/
  keys : List (Nat × PossibleKey)
  version : Option (Nat × Nat)
  done : Bool

namespace Scanner

def start (text : List Char) : Scanner :=
  { cursor := .start text, tokens := #[], indent := -1, indents := [], brackets := [],
    keyAllowed := true, keys := [], version := none, done := false }

def old (s : Scanner) : Bool := s.version == some (1, 1)

def inFlow (s : Scanner) : Bool := !s.brackets.isEmpty

def level (s : Scanner) : Nat := s.brackets.length

def push (s : Scanner) (t : Token) : Scanner := { s with tokens := s.tokens.push t }

def forbidKey (s : Scanner) : Scanner := { s with keyAllowed := false }

def allowKey (s : Scanner) : Scanner := { s with keyAllowed := true }

def advance (s : Scanner) (n : Nat) : Scanner := { s with cursor := s.cursor.skip n }

/-- The possible key of the current level. -/
def currentKey? (s : Scanner) : Option PossibleKey := (s.keys.find? (·.1 == s.level)).map (·.2)

def forgetKey (s : Scanner) : Scanner :=
  { s with keys := s.keys.filter (·.1 != s.level) }

/-- Drops the possible key of the current level. -/
def removeKey (s : Scanner) : Load Scanner :=
  match s.currentKey? with
  | some key => if key.required then flawed .simpleKey else return s.forgetKey
  | none => return s

/-- Remembers that the next token may be a key. -/
def saveKey (s : Scanner) : Load Scanner :=
  if s.keyAllowed then do
    let c := s.cursor
    let key : PossibleKey :=
      { token := s.tokens.size
        required := !s.inFlow && s.indent == (c.column : Int)
        index := c.index, line := c.line, column := c.column }
    let s ← s.removeKey
    return { s with keys := (s.level, key) :: s.keys }
  else return s

/-- Drops the keys whose colon can no longer come. -/
def dropStaleKeys (s : Scanner) : Load Scanner :=
  let stale (k : PossibleKey) : Bool :=
    k.line != s.cursor.line || s.cursor.index - k.index > 1024
  if s.keys.any fun (_, k) => stale k && k.required then flawed .simpleKey
  else return { s with keys := s.keys.filter fun (_, k) => !stale k }

/-- Closes the blocks that start right of a column. -/
def unwind (s : Scanner) (column : Int) : Scanner :=
  if s.inFlow then s
  else
    let closed := (s.indent :: s.indents).takeWhile (· > column)
    match (s.indent :: s.indents).drop closed.length with
    | indent :: indents =>
      { s with
        indent, indents
        tokens := s.tokens ++ (closed.map fun _ => Token.blockEnd).toArray }
    | [] => s

/-- Opens a block at a column if none starts there. -/
def openBlock (s : Scanner) (column : Nat) (t : Token) (at? : Option Nat) : Scanner :=
  if s.indent < column then
    let tokens :=
      match at? with
      | none => s.tokens.push t
      | some i => (s.tokens.toList.take i ++ t :: s.tokens.toList.drop i).toArray
    { s with indents := s.indent :: s.indents, indent := column, tokens }
  else s

/-- Skips blanks, comments and ends of lines. A key may start at the start of a line. -/
def skipBlanks : Nat → Scanner → Scanner
  | 0, s => s
  | fuel + 1, s =>
    let c := s.cursor.dropWhile fun ch => ch == ' ' || (ch == '\t' && s.inFlow)
    let c := if c.peek == '#' then c.dropWhile (!endsLine ·) else c
    if isBreak c.peek then
      let s := { s with cursor := c.takeBreak.2 }
      skipBlanks fuel (if s.inFlow then s else s.allowKey)
    else { s with cursor := c }

/-! ## Directives -/

private def takeNumber (c : Cursor) : Load (Nat × Cursor) :=
  match c.takeWhile Char.isDigit with
  | ([], _) => flawed .directive
  | (ds, c) => return (ds.foldl (fun n d => n * 10 + (d.toNat - 48)) 0, c)

private def dropSpaces (c : Cursor) : Cursor := c.dropWhile (· == ' ')

/-- The bytes written as `%XX` at the cursor. -/
def uriBytes : Nat → Cursor → Load (List UInt8 × Cursor)
  | 0, c => return ([], c)
  | fuel + 1, c =>
    if c.peek == '%' then
      match Text.baseDigit? 16 (c.peekAt 1), Text.baseDigit? 16 (c.peekAt 2) with
      | some a, some b => do
        let (bytes, c) ← uriBytes fuel (c.skip 3)
        return (UInt8.ofNat (a * 16 + b) :: bytes, c)
      | _, _ => flawed .tag
    else return ([], c)

private def isUriChar (old : Bool) (c : Char) : Bool :=
  c.isAlphanum || "-;/?:@&=+$,_.!~*'()[]".toList.contains c || (!old && c == '#')

def uriFrom (old : Bool) : Nat → Cursor → Load (List Char × Cursor)
  | 0, c => return ([], c)
  | fuel + 1, c =>
    match c.takeWhile (isUriChar old) with
    | ([], _) =>
      if c.peek == '%' then do
        let (bytes, c) ← uriBytes (c.rest.length + 1) c
        match Text.decodeUtf8 bytes with
        | .ok s =>
          let (rest, c) ← uriFrom old fuel c
          return (s.toList ++ rest, c)
        | .error _ => flawed .tag
      else return ([], c)
    | (taken, c) => do
      let (rest, c) ← uriFrom old fuel c
      return (taken ++ rest, c)

def takeUri (old : Bool) (c : Cursor) : Load (String × Cursor) := do
  let (cs, after) ← uriFrom old (c.rest.length + 1) c
  if after.index == c.index then flawed .tag else return (String.ofList cs, after)

/-- The handle of a tag: an exclamation mark, a second one, or a word between the two. -/
def takeHandle (c : Cursor) : Load (String × Cursor) :=
  if c.peek != '!' then flawed .tag
  else if c.peekAt 1 == ' ' then return ("!", c.next)
  else
    let (word, c) := c.next.takeWhile isAsciiWord
    if c.peek == '!' then return (String.ofList ('!' :: word ++ ['!']), c.next) else flawed .tag

private def endDirective (s : Scanner) (c : Cursor) (t : Token) : Load Scanner :=
  let c := dropSpaces c
  let c := if c.peek == '#' then c.dropWhile (!endsLine ·) else c
  if isBreakOrEnd c.peek then return ({ s with cursor := c.takeBreak.2 }).push t
  else flawed .directive

def scanDirective (s : Scanner) : Load Scanner := do
  let s ← (s.unwind (-1)).removeKey
  let s := s.forbidKey
  let (name, c) := s.cursor.next.takeWhile fun ch => isAsciiWord ch || ch == ':' || ch == '.'
  if name.isEmpty || !(isBreakOrEnd c.peek || c.peek == ' ') then flawed .directive
  else if name == ['Y', 'A', 'M', 'L'] then
    let (major, c) ← takeNumber (dropSpaces c)
    if c.peek != '.' then flawed .directive
    else
      let (minor, c) ← takeNumber c.next
      if isBreakOrEnd c.peek || c.peek == ' ' then
        endDirective { s with version := some (major, minor) } c (.version major minor)
      else flawed .directive
  else if name == ['T', 'A', 'G'] then
    let (handle, c) ← takeHandle (dropSpaces c)
    if c.peek != ' ' then flawed .directive
    else
      let (start, c) ← takeUri s.old (dropSpaces c)
      if isBreakOrEnd c.peek || c.peek == ' ' then endDirective s c (.tagHandle handle start)
      else flawed .directive
  else endDirective s (c.dropWhile (!endsLine ·)) .otherDirective

/-! ## Tokens -/

def scanMarker (s : Scanner) (t : Token) : Load Scanner := do
  let s ← (s.unwind (-1)).removeKey
  return (s.forbidKey.advance 3).push t

def scanOpening (s : Scanner) (bracket : Char) (t : Token) : Load Scanner := do
  let s ← s.saveKey
  return (({ s with brackets := bracket :: s.brackets }).allowKey.advance 1).push t

def scanClosing (s : Scanner) (t : Token) : Load Scanner := do
  let s ← s.removeKey
  return (({ s with brackets := s.brackets.tail }).forbidKey.advance 1).push t

def scanFlowEntry (s : Scanner) : Load Scanner := do
  let s ← s.allowKey.removeKey
  return (s.advance 1).push .flowEntry

def scanBlockEntry (s : Scanner) : Load Scanner := do
  if !s.inFlow && !s.keyAllowed then flawed .entry
  else
    let s := if s.inFlow then s else s.openBlock s.cursor.column .blockSequenceStart none
    let s ← s.allowKey.removeKey
    return (s.advance 1).push .blockEntry

def scanKey (s : Scanner) : Load Scanner := do
  if !s.inFlow && !s.keyAllowed then flawed .entry
  else
    let s := if s.inFlow then s else s.openBlock s.cursor.column .blockMappingStart none
    let s ← ({ s with keyAllowed := !s.inFlow }).removeKey
    return (s.advance 1).push .key

def scanValue (s : Scanner) : Load Scanner :=
  match s.currentKey? with
  | some key =>
    let s := s.forgetKey
    let tokens := (s.tokens.toList.take key.token ++ .key :: s.tokens.toList.drop key.token).toArray
    let s := { s with tokens }
    let s := if s.inFlow then s else s.openBlock key.column .blockMappingStart (some key.token)
    return (s.forbidKey.advance 1).push .value
  | none => do
    if !s.inFlow && !s.keyAllowed then flawed .entry
    else
      let s := if s.inFlow then s else s.openBlock s.cursor.column .blockMappingStart none
      let s ← ({ s with keyAllowed := !s.inFlow }).removeKey
      return (s.advance 1).push .value

private def isAnchorChar (c : Char) : Bool :=
  let n := c.toNat
  !(c == ',' || c == '[' || c == ']' || c == '\x7b' || c == '\x7d')
    && ((0x21 ≤ n && n ≤ 0x7e) || (0xa0 ≤ n && n ≤ 0xd7ff)
      || (0xe000 ≤ n && n ≤ 0xfffd && n != 0xfeff) || 0x10000 ≤ n)

def scanAnchor (s : Scanner) (t : String → Token) : Load Scanner := do
  let s ← s.saveKey
  match s.cursor.next.takeWhile isAnchorChar with
  | ([], _) => flawed .anchor
  | (name, c) =>
    let ch := c.peek
    if isBreakOrEnd ch || isSpaceOrTab ch || ch == ',' || ch == '[' || ch == ']'
        || ch == '\x7b' || ch == '\x7d' then
      return ({ s with cursor := c }).forbidKey.push (t (String.ofList name))
    else flawed .anchor

/-- Whether a second exclamation mark follows before the next blank. -/
private def hasHandle (cs : List Char) : Bool :=
  (cs.takeWhile fun c => !(isBreakOrEnd c || c == ' ')).contains '!'

def scanTag (s : Scanner) : Load Scanner := do
  let s ← s.saveKey
  let c := s.cursor
  let (handle, suffix, c) ←
    if c.peekAt 1 == '<' then do
      let (suffix, c) ← takeUri s.old (c.skip 2)
      if c.peek == '>' then pure (none, suffix, c.next) else flawed .tag
    else if endsIndicator (c.peekAt 1) then pure (none, "!", c.next)
    else do
      let (handle, c) ← if hasHandle (c.rest.drop 1) then takeHandle c else pure ("!", c.next)
      let (suffix, c) ← takeUri s.old c
      pure (some handle, suffix, c)
  if isBreakOrEnd c.peek || c.peek == ' ' then
    return ({ s with cursor := c }).forbidKey.push (.tag handle suffix)
  else flawed .tag

def scanBlock (s : Scanner) : Load Scanner := do
  let s ← s.allowKey.removeKey
  let (text, cursor) ← takeBlock s.indent s.cursor
  return ({ s with cursor }).push (.scalar text false)

def scanQuoted (s : Scanner) : Load Scanner := do
  let s ← s.saveKey
  let (text, cursor) ← takeQuoted s.cursor
  return ({ s with cursor }).forbidKey.push (.scalar text false)

def scanPlain (s : Scanner) : Load Scanner := do
  let s ← s.saveKey
  let (text, broke, cursor) ← takePlain ⟨s.indent + 1, s.inFlow, s.old⟩ s.cursor
  return ({ s with cursor, keyAllowed := broke }).push (.scalar text true)

/-- Whether a colon at the cursor introduces a value. -/
def atValue (s : Scanner) : Bool :=
  let free := endsIndicator (s.cursor.peekAt 1)
  match s.brackets with
  | [] => free
  | bracket :: _ =>
    if s.old then true
    else if bracket == '[' then free
    else if !s.keys.isEmpty && s.tokens.back? == some .value then free
    else true

/-- Whether a plain scalar may start at the cursor. -/
def atPlain (s : Scanner) : Bool :=
  let ch := s.cursor.peek
  let following := s.cursor.peekAt 1
  let special := isBreakOrEnd ch || "\t -?:,[]\x7b\x7d#&*!|>'\"%@\x60".toList.contains ch
  !special
    || (ch == ':' && !s.old && s.inFlow && !isSpaceOrTab following)
    || (!endsIndicator following && (ch == '-' || (!s.inFlow && (ch == '?' || ch == ':'))))

/-- Reads the next token, and the tokens that the indentation calls for in front of it. -/
def step (s : Scanner) : Load Scanner := do
  let s ← (skipBlanks (s.cursor.rest.length + 1) s).dropStaleKeys
  let s := s.unwind s.cursor.column
  let c := s.cursor
  let free := endsIndicator (c.peekAt 1)
  if c.atEnd then
    let s ← (s.unwind (-1)).removeKey
    return { s with done := true, keys := [] }
  else
    match c.peek with
    | '%' => if c.column == 0 then s.scanDirective else flawed .character
    | '[' => s.scanOpening '[' .sequenceStart
    | '\x7b' => s.scanOpening '\x7b' .mappingStart
    | ']' => s.scanClosing .sequenceEnd
    | '\x7d' => s.scanClosing .mappingEnd
    | ',' => s.scanFlowEntry
    | '*' => s.scanAnchor .alias
    | '&' => s.scanAnchor .anchor
    | '!' => s.scanTag
    | '\'' | '"' => s.scanQuoted
    | ch =>
      if c.column == 0 && c.atMarker "---" then s.scanMarker .documentStart
      else if c.column == 0 && c.atMarker "..." then s.scanMarker .documentEnd
      else if ch == '-' && free then s.scanBlockEntry
      else if ch == '?' && (s.inFlow || free) then s.scanKey
      else if ch == ':' && s.atValue then s.scanValue
      else if (ch == '|' || ch == '>') && !s.inFlow then s.scanBlock
      else if s.atPlain then s.scanPlain
      else flawed .character

def scanAll : Nat → Scanner → Load Scanner
  | 0, _ => flawed .character
  | fuel + 1, s => do
    let s ← s.step
    if s.done then return s else scanAll fuel s

end Scanner

/-- A character that a document may hold. -/
def isDocumentChar (c : Char) : Bool :=
  let n := c.toNat
  n == 9 || n == 10 || n == 13 || (0x20 ≤ n && n ≤ 0x7e) || n == 0x85
    || (0xa0 ≤ n && n ≤ 0xd7ff) || (0xe000 ≤ n && n ≤ 0xfffd) || 0x10000 ≤ n

/-- The tokens of a text and the version it declares. -/
def scan (text : String) : Load (List Token × Option (Nat × Nat)) := do
  let cs := text.toList
  if !cs.all isDocumentChar then flawed .character
  else
    let cs := if cs.head? == some '\ufeff' then cs.drop 1 else cs
    let s ← (Scanner.start cs).scanAll (cs.length + 2)
    return (s.tokens.toList, s.version)

end ImagePreload.Yaml
