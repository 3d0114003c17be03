import ImagePreload.Format.Spec
import ImagePreload.Text.Digit

/-!
# Texts with fields in braces

A field names what is put in its place, optionally how it is turned into a text and under which
specification, which may contain fields itself. Doubled braces stand for single ones. A text is
read piece by piece, so what is wrong further behind is only found when everything in front of it
has been put in.
-/

namespace ImagePreload.Format

inductive BraceError where
  | lonelyClose
  | lonelyOpen
  | openInName
  | unclosed
  | unclosedSpec
  | conversionEnd
  | noConversion
  | unknownConversion (conversion : Char)
  | tooDeep
  | tooManyDigits
  | unclosedIndex
  | emptyStep
  | strayAfterIndex
  | automaticAfterManual
  | manualAfterAutomatic
  | positionalField
  deriving DecidableEq

def BraceError.message : BraceError → String
  | .lonelyClose => "Single '\x7d' encountered in format string"
  | .lonelyOpen => "Single '\x7b' encountered in format string"
  | .openInName => "unexpected '\x7b' in field name"
  | .unclosed => "expected '\x7d' before end of string"
  | .unclosedSpec => "unmatched '\x7b' in format spec"
  | .conversionEnd => "expected ':' after conversion specifier"
  | .noConversion => "end of string while looking for conversion specifier"
  | .unknownConversion c =>
    "Unknown conversion specifier "
      ++ (if c.toNat < 127 then codeText c else "\\x" ++ String.ofList (Nat.toDigits 16 c.toNat))
  | .tooDeep => "Max string recursion exceeded"
  | .tooManyDigits => "Too many decimal digits in format string"
  | .unclosedIndex => "Missing ']' in format string"
  | .emptyStep => "Empty attribute in format string"
  | .strayAfterIndex => "Only '.' or '[' may follow ']' in format field specifier"
  | .automaticAfterManual =>
    "cannot switch from manual field specification to automatic field numbering"
  | .manualAfterAutomatic =>
    "cannot switch from automatic field numbering to manual field specification"
  | .positionalField => "Format string contains positional fields"

/-- A field as it is written. -/
structure Field where
  name : List Char
  conversion : Option Char
  spec : List Char

inductive Piece where
  | text (c : Char)
  | field (f : Field)

/-- The name of a field and what comes behind it; inside square brackets every character belongs
to the name. -/
private def takeName (inBrackets : Bool) : List Char → Except BraceError (List Char × List Char)
  | [] => .ok ([], [])
  | c :: cs =>
    if !inBrackets && c == '\x7b' then .error .openInName
    else if !inBrackets && (c == '\x7d' || c == ':' || c == '!') then .ok ([], c :: cs)
    else
      (takeName (if inBrackets then c != ']' else c == '[') cs).map fun (name, rest) =>
        (c :: name, rest)

/-- A specification up to the brace that closes its field. -/
private def takeSpec : Nat → List Char → Except BraceError (List Char × List Char)
  | _, [] => .error .unclosedSpec
  | 0, '\x7d' :: cs => .ok ([], cs)
  | depth + 1, '\x7d' :: cs => (takeSpec depth cs).map fun (spec, rest) => ('\x7d' :: spec, rest)
  | depth, '\x7b' :: cs =>
    (takeSpec (depth + 1) cs).map fun (spec, rest) => ('\x7b' :: spec, rest)
  | depth, c :: cs => (takeSpec depth cs).map fun (spec, rest) => (c :: spec, rest)

private def takeField (cs : List Char) : Except BraceError (Field × List Char) := do
  let (name, rest) ← takeName false cs
  let specified (conversion : Option Char) (cs : List Char) :
      Except BraceError (Field × List Char) :=
    (takeSpec 0 cs).map fun (spec, rest) => (⟨name, conversion, spec⟩, rest)
  match rest with
  | '\x7d' :: rest => return (⟨name, none, []⟩, rest)
  | ':' :: rest => specified none rest
  | ['!'] => throw .noConversion
  | ['!', _] => throw .unclosedSpec
  | '!' :: c :: '\x7d' :: rest => return (⟨name, some c, []⟩, rest)
  | '!' :: c :: ':' :: rest => specified (some c) rest
  | '!' :: _ => throw .conversionEnd
  | _ => throw .unclosed

/-- The first piece of a format and the rest, nothing of the empty one. -/
def takePiece : List Char → Except BraceError (Option (Piece × List Char))
  | [] => .ok none
  | '\x7b' :: '\x7b' :: cs => .ok (some (.text '\x7b', cs))
  | '\x7d' :: '\x7d' :: cs => .ok (some (.text '\x7d', cs))
  | '\x7d' :: _ => .error .lonelyClose
  | ['\x7b'] => .error .lonelyOpen
  | '\x7b' :: cs => (takeField cs).map fun (f, rest) => some (.field f, rest)
  | c :: cs => .ok (some (.text c, cs))

/-- The number that digits of any script write, if the text is one. -/
def writtenIndex? (cs : List Char) : Except BraceError (Option Nat) :=
  if cs.isEmpty then .ok none
  else
    match cs.mapM Text.digitValue? with
    | none => .ok none
    | some ds =>
      let n := ds.foldl (fun n d => n * 10 + d) 0
      if n > largestCount then .error .tooManyDigits else .ok (some n)

/-- What a field starts from. -/
inductive FieldRoot where
  /-- The next of the positional arguments. -/
  | next
  | position (i : Nat)
  | name (name : String)

/-- A step into what a field names. -/
inductive FieldStep where
  | attribute (name : String)
  | key (key : String)
  | position (i : Nat)

/-- What a field starts from, and the unread steps from there. -/
def takeRoot (name : List Char) : Except BraceError (FieldRoot × List Char) :=
  let (first, rest) := name.span fun c => c != '.' && c != '['
  if first.isEmpty then .ok (.next, rest)
  else
    (writtenIndex? first).map fun
      | some i => (.position i, rest)
      | none => (.name (String.ofList first), rest)

/-- The first of the steps, nothing if there are none. -/
def takeStep : List Char → Except BraceError (Option (FieldStep × List Char))
  | [] => .ok none
  | '.' :: cs =>
    match cs.span fun c => c != '.' && c != '[' with
    | ([], _) => .error .emptyStep
    | (name, rest) => .ok (some (.attribute (String.ofList name), rest))
  | '[' :: cs =>
    match cs.span (· != ']') with
    | (_, []) => .error .unclosedIndex
    | (key, _ :: rest) => do
      match ← writtenIndex? key with
      | some i => return some (.position i, rest)
      | none =>
        if key.isEmpty then throw .emptyStep
        else return some (.key (String.ofList key), rest)
  | _ => .error .strayAfterIndex

/-- Numbering of fields: not decided, automatic with the next number, or by hand. -/
inductive Numbering where
  | open
  | automatic (next : Nat)
  | manual

/-- The position a field stands for, and the numbering from there on. -/
def Numbering.take (numbering : Numbering) (given : Option Nat) :
    Except BraceError (Nat × Numbering) :=
  match numbering, given with
  | .manual, none => .error .automaticAfterManual
  | .open, none => .ok (0, .automatic 1)
  | .automatic n, none => .ok (n, .automatic (n + 1))
  | .automatic _, some _ => .error .manualAfterAutomatic
  | _, some i => .ok (i, .manual)

end ImagePreload.Format
