import ImagePreload.Decimal.Reading
import ImagePreload.Template.Error
import ImagePreload.Text.Letter
import ImagePreload.Text.Search

/-!
# Tokens of a template

A template is text with tags in it: expressions between double braces, statements between a brace
and a percent sign, comments between a brace and a number sign. A minus sign at the edge of a tag
takes the white space next to it away. Inside a tag the brackets must balance, and a closing brace
of the tag counts as one only when no bracket is open.
-/

namespace ImagePreload.Template

inductive Token where
  | data (text : String)
  | outputStart
  | outputEnd
  | tagStart
  | tagEnd
  | name (s : String)
  | text (s : String)
  | int (n : Int)
  | float (x : Float)
  | op (s : String)

abbrev Parsed := Except TemplateError

/-! ## Literals -/

/-- The operators, the longer ones before the shorter ones that they start with. -/
def operators : List (List Char) :=
  ["//", "**", "==", "!=", ">=", "<=", "+", "-", "/", "*", "%", "~", "[", "]", "(", ")",
    "\x7b", "\x7d", ">", "<", "=", ".", ":", "|", ",", ";"].map String.toList

private def octal? (c : Char) : Option Nat := Text.baseDigit? 8 c

/-- The character a simple escape stands for. -/
private def simpleEscape? : Char → Option Char
  | '\\' => some '\\'
  | '\'' => some '\''
  | '"' => some '"'
  | 'a' => some '\x07'
  | 'b' => some '\x08'
  | 'f' => some '\x0c'
  | 'n' => some '\n'
  | 'r' => some '\r'
  | 't' => some '\t'
  | 'v' => some '\x0b'
  | _ => none

private def hexLength? : Char → Option Nat
  | 'x' => some 2
  | 'u' => some 4
  | 'U' => some 8
  | _ => none

/-- The character with a code point. Half of a surrogate pair is none that a text could hold; it
counts as the replacement character here, so what comes of it is outside of what is described. -/
private def charOf (code : Nat) : Parsed Char :=
  if code ≥ 0x110000 then .error .malformed
  else if 0xd800 ≤ code && code < 0xe000 then .ok '\ufffd'
  else .ok (Char.ofNat code)

/-- Resolves the escapes of a quoted text. -/
def unescape : Nat → List Char → Parsed (List Char)
  | 0, _ => .ok []
  | _, [] => .ok []
  | _ + 1, ['\\'] => .error .malformed
  | fuel + 1, '\\' :: c :: cs =>
    if c == '\n' then unescape fuel cs
    else
      match simpleEscape? c, hexLength? c, octal? c with
      | some image, _, _ => (unescape fuel cs).map (image :: ·)
      | none, some n, _ =>
        let ds := (cs.take n).filterMap (Text.baseDigit? 16)
        if ds.length < n then .error .malformed
        else do
          let image ← charOf (Decimal.digitsValue 16 ds)
          return image :: (← unescape fuel (cs.drop n))
      | none, none, some _ =>
        let ds := ((c :: cs).take 3).takeWhile fun d => (octal? d).isSome
        do
          let image ← charOf (Decimal.digitsValue 8 (ds.filterMap octal?))
          return image :: (← unescape fuel ((c :: cs).drop ds.length))
      | none, none, none =>
        if c == 'N' then .error .malformed
        else (unescape fuel cs).map fun rest => '\\' :: c :: rest
  | fuel + 1, c :: cs => (unescape fuel cs).map (c :: ·)

/-- A quoted text from behind its opening quote: what is inside, and what follows. -/
def takeQuoted (quote : Char) : List Char → Option (List Char × List Char)
  | [] => none
  | [c] => if c == quote then some ([], []) else none
  | '\\' :: c :: cs => (takeQuoted quote cs).map fun (inside, rest) => ('\\' :: c :: inside, rest)
  | c :: d :: cs =>
    if c == quote then some ([], d :: cs)
    else (takeQuoted quote (d :: cs)).map fun (inside, rest) => (c :: inside, rest)

/-- Digits with single low lines between them. -/
private def takeDigits (isDigit : Char → Bool) (cs : List Char) : List Char × List Char :=
  match cs with
  | c :: rest => if isDigit c then more c rest else ([], cs)
  | [] => ([], [])
where
  more (first : Char) : List Char → List Char × List Char
    | '_' :: d :: rest =>
      if isDigit d then
        let (ds, rest) := more d rest
        (first :: ds, rest)
      else ([first], '_' :: d :: rest)
    | d :: rest =>
      if isDigit d then
        let (ds, rest) := more d rest
        (first :: ds, rest)
      else ([first], d :: rest)
    | [] => ([first], [])

private def isAnyDigit (c : Char) : Bool := (Text.digitValue? c).isSome

private def digitsIn (cs : List Char) : List Nat := cs.filterMap Text.digitValue?

/-- An exponent at the front. -/
private def takeExponent (cs : List Char) : Option (Int × List Char) :=
  match cs with
  | c :: rest =>
    if c == 'e' || c == 'E' then
      let (negative, rest) := Decimal.takeSign rest
      match takeDigits isAnyDigit rest with
      | ([], _) => none
      | (ds, rest) =>
        let n := Decimal.digitsValue 10 (digitsIn ds)
        some (if negative then -(n : Int) else n, rest)
    else none
  | [] => none

/-- A number with a fraction, an exponent or both. -/
def takeFloat (cs : List Char) : Option (Float × List Char) :=
  match takeDigits isAnyDigit cs with
  | ([], _) => none
  | (whole, rest) =>
    let fraction :=
      match rest with
      | '.' :: after =>
        match takeDigits isAnyDigit after with
        | ([], _) => none
        | (ds, rest) => some (ds, rest)
      | _ => none
    let (behind, afterFraction) := fraction.getD ([], rest)
    let value (e : Int) : Float :=
      Decimal.ofScientific (Decimal.digitsValue 10 (digitsIn (whole ++ behind))) (e - behind.length)
    match takeExponent afterFraction with
    | some (e, rest) => some (value e, rest)
    | none => if fraction.isSome then some (value 0, afterFraction) else none

/-- An integer, in another base behind a mark. -/
def takeInt (cs : List Char) : Option (Int × List Char) :=
  let marked (base : Nat) (rest : List Char) : Option (Int × List Char) :=
    let rest := match rest with | '_' :: r => r | r => r
    match takeDigits (fun c => (Text.baseDigit? base c).isSome) rest with
    | ([], _) => none
    | (ds, rest) => some (Decimal.digitsValue base (ds.filterMap (Text.baseDigit? base)), rest)
  let plain : Option (Int × List Char) :=
    match cs with
    | '0' :: _ =>
      let (_, rest) := takeDigits (· == '0') cs
      some (0, rest)
    | c :: _ =>
      if '1' ≤ c && c ≤ '9' then
        let (ds, rest) := takeDigits isAnyDigit cs
        some (Decimal.digitsValue 10 (digitsIn ds), rest)
      else none
    | [] => none
  match Decimal.markedBase cs with
  | some (base, rest) => (marked base rest).orElse fun _ => plain
  | none => plain

theorem takeFloat_of_no_digit {c : Char} (h : Text.digitValue? c = none) (cs : List Char) :
    takeFloat (c :: cs) = none := by
  have hdigits : takeDigits isAnyDigit (c :: cs) = ([], c :: cs) := by
    rw [takeDigits, isAnyDigit, h]
    rfl
  rw [takeFloat, hdigits]

theorem takeInt_of_no_digit {c : Char} (h : Text.digitValue? c = none) (cs : List Char) :
    takeInt (c :: cs) = none := by
  have hzero : c ≠ '0' := by
    rintro rfl
    cases h
  have hdigit : ('1' ≤ c && c ≤ '9') = false := by
    rw [Bool.eq_false_iff]
    intro hrange
    rw [Bool.and_eq_true, decide_eq_true_eq, decide_eq_true_eq, Char.le_def, Char.le_def,
      UInt32.le_iff_toNat_le, UInt32.le_iff_toNat_le] at hrange
    have hlow : 49 ≤ c.toNat := hrange.1
    have hhigh : c.toNat ≤ 57 := hrange.2
    have hascii : c.isDigit = true := by
      rw [Char.isDigit, Bool.and_eq_true, decide_eq_true_eq, decide_eq_true_eq]
      exact ⟨UInt32.le_iff_toNat_le.2 (Nat.le_trans (by decide) hlow),
        UInt32.le_iff_toNat_le.2 hhigh⟩
    rw [Text.digitValue?, if_pos (by omega), if_pos hascii] at h
    cases h
  have hmarked : Decimal.markedBase (c :: cs) = none := by
    rw [Decimal.markedBase]
    rintro d ds heq
    cases heq
    exact hzero rfl
  unfold takeInt
  simp only [hmarked]
  split
  · next hrange =>
      rw [hdigit] at hrange
      cases hrange
  · rfl

/-! ## Tags -/

/-- What closes a tag. -/
inductive TagKind where
  | output
  | statement
  deriving DecidableEq

def TagKind.close : TagKind → List Char
  | .output => ['\x7d', '\x7d']
  | .statement => ['%', '\x7d']

/-- What is left behind the end of a tag, if the text starts with one. -/
def TagKind.dropEnd? (kind : TagKind) (cs : List Char) : Option (List Char) :=
  match cs with
  | '-' :: rest => (Text.dropPart? kind.close rest).map Text.dropBlanks
  | '+' :: rest => if kind == .statement then Text.dropPart? kind.close rest else none
  | _ => Text.dropPart? kind.close cs

private def openers : List (Char × Char) := [('(', ')'), ('[', ']'), ('\x7b', '\x7d')]

/-- The tokens of a tag, and what follows it. `open?` holds the brackets that are to be closed and
`dotted` says that a point came last, behind which no fraction starts. -/
def scanTag (kind : TagKind) :
    Nat → List Char → List Char → Bool → Array Token → Parsed (Array Token × List Char)
  | 0, _, _, _, _ => .error .malformed
  | fuel + 1, cs, brackets, dotted, done =>
    let ending := if brackets.isEmpty then kind.dropEnd? cs else none
    match ending with
    | some rest => .ok (done, rest)
    | none =>
      match cs with
      | [] => .error .malformed
      | c :: rest =>
        if Text.isBlank c then scanTag kind fuel (Text.dropBlanks rest) brackets false done
        else
          match if dotted then none else takeFloat cs with
          | some (x, rest) => scanTag kind fuel rest brackets false (done.push (.float x))
          | none =>
            match takeInt cs with
            | some (n, rest) => scanTag kind fuel rest brackets false (done.push (.int n))
            | none =>
              if Text.isWordChar c || Text.isIdentifierPart c then
                let isPart (d : Char) : Bool := Text.isWordChar d || Text.isIdentifierPart d
                let word := cs.takeWhile isPart
                if Text.isIdentifier word then
                  scanTag kind fuel (cs.dropWhile isPart) brackets false
                    (done.push (.name (String.ofList word)))
                else .error .malformed
              else if c == '"' || c == '\'' then
                match takeQuoted c rest with
                | none => .error .malformed
                | some (inside, rest) => do
                  let s ← unescape (inside.length + 1) inside
                  scanTag kind fuel rest brackets false (done.push (.text (String.ofList s)))
              else
                match operators.find? fun op => (Text.dropPart? op cs).isSome with
                | none => .error .malformed
                | some op =>
                  let token := Token.op (String.ofList op)
                  let rest := cs.drop op.length
                  match op, openers.find? (fun (o, _) => op == [o]) with
                  | _, some (_, close) =>
                    scanTag kind fuel rest (close :: brackets) false (done.push token)
                  | [c], none =>
                    if c == ')' || c == ']' || c == '\x7d' then
                      if brackets.head? == some c then
                        scanTag kind fuel rest brackets.tail false (done.push token)
                      else .error .malformed
                    else scanTag kind fuel rest brackets (c == '.') (done.push token)
                  | _, none => scanTag kind fuel rest brackets false (done.push token)

/-! ## Text -/

/-- What a tag's opening in the text asks for. -/
inductive Opening where
  | output
  | statement
  | comment
  /-- Text up to the end mark is not looked into; white space behind the opening may go. -/
  | raw

/-- A word between the marks of a statement, such as the ones around text that is not looked
into. -/
private def loneWord? (word : String) (plusEnds : Bool) (cs : List Char) : Option (List Char) := do
  let cs := match cs with
    | '-' :: r | '+' :: r => r
    | r => r
  let rest ← Text.dropPart? word.toList (Text.dropBlanks cs)
  let rest := Text.dropBlanks rest
  match rest with
  | '+' :: r => if plusEnds then Text.dropPart? ['%', '\x7d'] r else none
  | '-' :: r => (Text.dropPart? ['%', '\x7d'] r).map Text.dropBlanks
  | r => Text.dropPart? ['%', '\x7d'] r

/-- The opening at the front of a text, the sign at its edge and what follows. -/
def opening? : List Char → Option (Opening × Option Char × List Char)
  | '\x7b' :: c :: rest =>
    let sign := match rest with
      | '-' :: _ => some '-'
      | '+' :: _ => some '+'
      | _ => none
    let after := if sign.isSome then rest.drop 1 else rest
    if c == '%' then
      match loneWord? "raw" false rest with
      | some body => some (.raw, sign, body)
      | none => some (.statement, sign, after)
    else if c == '\x7b' then some (.output, sign, after)
    else if c == '#' then some (.comment, sign, after)
    else none
  | _ => none

/-- What follows a comment. -/
def dropComment : List Char → Option (List Char)
  | '+' :: '#' :: '\x7d' :: rest => some rest
  | '-' :: '#' :: '\x7d' :: rest => some (Text.dropBlanks rest)
  | '#' :: '\x7d' :: rest => some rest
  | _ :: cs => dropComment cs
  | [] => none

/-- Text up to the mark that ends the part that is not looked into, whether the mark takes the white
space before it away, and what follows. -/
def takeRaw : List Char → Option (List Char × Bool × List Char)
  | [] => none
  | c :: cs =>
    let ending :=
      match c :: cs with
      | '\x7b' :: '%' :: rest =>
        (loneWord? "endraw" true rest).map fun after => (rest.head? == some '-', after)
      | _ => none
    match ending with
    | some (strips, after) => some ([], strips, after)
    | none => (takeRaw cs).map fun (inside, strips, after) => (c :: inside, strips, after)

def pushData (done : Array Token) (cs : List Char) : Array Token :=
  if cs.isEmpty then done else done.push (.data (String.ofList cs))

/-- The tokens of a text from here on; `before` is the text in front in reverse. -/
def scanText : Nat → List Char → List Char → Array Token → Parsed (Array Token)
  | 0, _, _, _ => .error .malformed
  | fuel + 1, before, cs, done =>
    match cs with
    | [] => .ok (pushData done before.reverse)
    | c :: rest =>
      match opening? cs with
      | none => scanText fuel (c :: before) rest done
      | some (opening, sign, after) =>
        let data := if sign == some '-' then before.dropWhile Text.isBlank else before
        let done := pushData done data.reverse
        match opening with
        | .comment =>
          if after.isEmpty then .ok done
          else
            match dropComment after with
            | some rest => scanText fuel [] rest done
            | none => .error .malformed
        | .raw =>
          if after.isEmpty then .ok done
          else
            match takeRaw after with
            | some (inside, strips, rest) =>
              scanText fuel [] rest
                (pushData done (if strips then Text.dropEndBlanks inside else inside))
            | none => .error .malformed
        | .output => do
          let (inner, rest) ←
            scanTag .output (after.length + 2) after [] false (done.push .outputStart)
          scanText fuel [] rest (inner.push .outputEnd)
        | .statement => do
          let (inner, rest) ←
            scanTag .statement (after.length + 2) after [] false (done.push .tagStart)
          scanText fuel [] rest (inner.push .tagEnd)

/-- The tokens of a template. -/
def scan (cs : List Char) : Parsed (List Token) :=
  (scanText (cs.length + 1) [] cs #[]).map Array.toList

end ImagePreload.Template
