import ImagePreload.Format.Spec

/-!
# Texts with percent marks

A mark `%`, optional flags, a width, a precision and a letter stand for the next argument, or for
the one named in parentheses. A doubled percent sign stands for one.
-/

namespace ImagePreload.Format

/-- What a format may ask of an argument. Texts are only taken when they are asked for. -/
structure Argument (ε : Type) where
  text : Unit → Except ε String
  quoted : Unit → Except ε String
  number : Option Number
  /-- The only character of a text of one. -/
  single : Option Char
  typeName : String

/-- The arguments of a format. -/
structure Arguments (ε : Type) where
  items : List (Argument ε)
  /-- The named arguments, if there may be any. -/
  named : Option (String → Except ε (Argument ε))

inductive PercentError where
  | notEnough
  | notAllUsed
  | unsupportedCode (code : Char) (position : Nat)
  | incomplete
  | incompleteKey
  | mappingNeeded
  | unknownKey (key : String)
  | numberNeeded (code : Char) (typeName : String)
  | integerNeeded (code : Char) (typeName : String)
  | realNeeded (typeName : String)
  | charNeeded
  | charRange
  | widthNeeded
  | widthTooBig
  | precisionTooBig
  /-- An argument that is too large for a count, held in a word of some name. -/
  | countTooLarge (word : String)
  | arithmetic (cause : ArithmeticError)

def PercentError.message : PercentError → String
  | .notEnough => "not enough arguments for format string"
  | .notAllUsed => "not all arguments converted during string formatting"
  | .unsupportedCode code position =>
    "unsupported format character '"
      ++ String.singleton (if ' ' ≤ code && code.toNat ≤ 126 then code else '?') ++ "' (0x"
      ++ String.ofList (Nat.toDigits 16 code.toNat) ++ ") at index " ++ toString position
  | .incomplete => "incomplete format"
  | .incompleteKey => "incomplete format key"
  | .mappingNeeded => "format requires a mapping"
  | .unknownKey key => key
  | .numberNeeded code t =>
    "%" ++ String.singleton code ++ " format: a real number is required, not " ++ t
  | .integerNeeded code t =>
    "%" ++ String.singleton code ++ " format: an integer is required, not " ++ t
  | .realNeeded t => "must be real number, not " ++ t
  | .charNeeded => "%c requires int or char"
  | .charRange => "%c arg not in range(0x110000)"
  | .widthNeeded => "* wants int"
  | .widthTooBig => "width too big"
  | .precisionTooBig => "precision too big"
  | .countTooLarge word => "Python int too large to convert to C " ++ word
  | .arithmetic cause => cause.message

def PercentError.kind : PercentError → ErrorKind
  | .unsupportedCode .. | .incomplete | .incompleteKey | .widthTooBig | .precisionTooBig => .value
  | .charRange | .countTooLarge _ => .overflow
  | .unknownKey _ => .key
  | .arithmetic cause => cause.kind
  | _ => .type

structure Flags where
  left : Bool
  plus : Bool
  space : Bool
  alternate : Bool
  zero : Bool

private def takeFlags (f : Flags) : List Char → Flags × List Char
  | '-' :: cs => takeFlags { f with left := true } cs
  | '+' :: cs => takeFlags { f with plus := true } cs
  | ' ' :: cs => takeFlags { f with space := true } cs
  | '#' :: cs => takeFlags { f with alternate := true } cs
  | '0' :: cs => takeFlags { f with zero := true } cs
  | cs => (f, cs)

/-- A name up to its closing parenthesis; parentheses inside it balance. -/
private def takeKey (depth : Nat) : List Char → Option (List Char × List Char)
  | [] => none
  | c :: cs =>
    if c == ')' && depth == 0 then some ([], cs)
    else
      let depth := if c == '(' then depth + 1 else if c == ')' then depth - 1 else depth
      (takeKey depth cs).map fun (key, rest) => (c :: key, rest)

private def padded (f : Flags) (width : Nat) (zeros : Bool) (front body : List Char) : List Char :=
  let missing := width - (front.length + body.length)
  if f.left then front ++ body ++ List.replicate missing ' '
  else if zeros then front ++ List.replicate missing '0' ++ body
  else List.replicate missing ' ' ++ front ++ body

private def signOf (f : Flags) (negative : Bool) : List Char :=
  if negative then ['-'] else if f.plus then ['+'] else if f.space then [' '] else []

/-- Characters beyond ASCII written as escapes. -/
def asciiOnly (cs : List Char) : List Char :=
  cs.flatMap fun c =>
    if c.toNat < 0x80 then [c]
    else if c.toNat ≤ 0xff then '\\' :: 'x' :: Text.hexPadded 2 c.toNat
    else if c.toNat ≤ 0xffff then '\\' :: 'u' :: Text.hexPadded 4 c.toNat
    else '\\' :: 'U' :: Text.hexPadded 8 c.toNat

variable {ε : Type}

/-- One argument in the form a letter asks for. -/
def convert (lift : PercentError → ε) (f : Flags) (width : Nat) (precision : Option Nat)
    (code : Char) (a : Argument ε) : Except ε (List Char) :=
  let cut (s : String) : List Char :=
    match precision with
    | some n => s.toList.take n
    | none => s.toList
  let integer (n : Int) : List Char :=
    let (ds, mark) := integerDigits (if code == 'i' || code == 'u' then 'd' else code) n.natAbs
    let ds := List.replicate ((precision.getD 0) - ds.length) '0' ++ ds
    padded f width f.zero (signOf f (n < 0) ++ (if f.alternate then mark else [])) ds
  match code with
  | 's' => (a.text ()).map fun s => padded f width false [] (cut s)
  | 'r' => (a.quoted ()).map fun s => padded f width false [] (cut s)
  | 'a' => (a.quoted ()).map fun s =>
      padded f width false [] (cut (String.ofList (asciiOnly s.toList)))
  | 'c' =>
    match a.single, a.number with
    | some c, _ => .ok (padded f width false [] [c])
    | none, some (.int n) =>
      if 0 ≤ n && n < 0x110000 then .ok (padded f width false [] [Char.ofNat n.toNat])
      else .error (lift .charRange)
    | none, _ => .error (lift .charNeeded)
  | 'd' | 'i' | 'u' =>
    match a.number with
    | some x =>
      match x.toInt with
      | .ok n => .ok (integer n)
      | .error e => .error (lift (.arithmetic e))
    | none => .error (lift (.numberNeeded code a.typeName))
  | 'o' | 'x' | 'X' =>
    match a.number with
    | some (.int n) => .ok (integer n)
    | _ => .error (lift (.integerNeeded code a.typeName))
  | code =>
    match a.number with
    | some x =>
      match x.toFloat with
      | .ok x =>
        let negative :=
          match Decimal.shape x with
          | .finite b => b.negative
          | .infinite negative => negative
          | .notANumber => false
        .ok (padded f width f.zero (signOf f negative)
          (floatBody (some code) (some (precision.getD 6)) f.alternate x))
      | .error e => .error (lift (.arithmetic e))
    | none => .error (lift (.realNeeded a.typeName))

private def codes : List Char := "srabcdiuoxXeEfFgG".toList.filter (· != 'b')

/-- A number, or an argument that gives one. Numbers above `most` are too big, arguments when they
do not fit into a word. -/
private def takeNumber (lift : PercentError → ε) (most : Nat) (tooBig : PercentError)
    (word : String) (items : List (Argument ε)) (cs : List Char) :
    Except ε (Option Int × List (Argument ε) × List Char) :=
  match cs with
  | '*' :: cs =>
    match items with
    | [] => .error (lift .notEnough)
    | a :: items =>
      match a.number with
      | some (.int n) =>
        if n < -(most : Int) - 1 || n > most then .error (lift (.countTooLarge word))
        else .ok (some n, items, cs)
      | _ => .error (lift .widthNeeded)
  | cs =>
    match cs.takeWhile Char.isDigit with
    | [] => .ok (none, items, cs)
    | ds =>
      let n : Nat := ds.foldl (fun n d => n * 10 + (d.toNat - 48)) 0
      if n > most then .error (lift tooBig)
      else .ok (some n, items, cs.dropWhile Char.isDigit)

/-- The arguments for a mark: those left over, or the only one that a name in front stands for. -/
private def takeArguments (lift : PercentError → ε)
    (named : Option (String → Except ε (Argument ε))) (items : List (Argument ε))
    (cs : List Char) : Except ε (List (Argument ε) × List Char) :=
  match cs with
  | '(' :: rest =>
    match named with
    | none => .error (lift .mappingNeeded)
    | some find =>
      match takeKey 0 rest with
      | some (key, rest) => (find (String.ofList key)).map fun a => ([a], rest)
      | none => .error (lift .incompleteKey)
  | cs => .ok (items, cs)

/-- The text of a format from here on, and the arguments left over; `total` is the length of the
whole format. -/
def percentFrom (lift : PercentError → ε) (named : Option (String → Except ε (Argument ε)))
    (total : Nat) : Nat → List (Argument ε) → List Char →
      Except ε (List Char × List (Argument ε))
  | 0, items, _ => .ok ([], items)
  | _ + 1, items, [] => .ok ([], items)
  | fuel + 1, items, '%' :: '%' :: cs => do
    let (out, items) ← percentFrom lift named total fuel items cs
    return ('%' :: out, items)
  | fuel + 1, items, '%' :: cs => do
    let (items, cs) ← takeArguments lift named items cs
    let (flags, cs) := takeFlags ⟨false, false, false, false, false⟩ cs
    let (width, items, cs) ← takeNumber lift largestCount .widthTooBig "ssize_t" items cs
    let (precision, items, cs) ←
      match cs with
      | '.' :: cs => do
        let (p, items, cs) ← takeNumber lift largestPrecision .precisionTooBig "int" items cs
        pure (some (p.getD 0), items, cs)
      | cs => pure (none, items, cs)
    let cs := match cs with
      | c :: rest => if c == 'h' || c == 'l' || c == 'L' then rest else c :: rest
      | [] => []
    match cs, items with
    | [], _ => throw (lift .incomplete)
    | _, [] => throw (lift .notEnough)
    | code :: rest, argument :: items =>
      let flags := if (width.getD 0) < 0 then { flags with left := true } else flags
      if !codes.contains code then
        throw (lift (.unsupportedCode code (total - rest.length - 1)))
      let part ←
        convert lift flags (width.getD 0).natAbs (precision.map Int.toNat) code argument
      let (out, items) ← percentFrom lift named total fuel items rest
      return (part ++ out, items)
  | fuel + 1, items, c :: cs => do
    let (out, items) ← percentFrom lift named total fuel items cs
    return (c :: out, items)

/-- A format with its arguments put in. Arguments must not be left over, unless they may be named.
-/
def percent (lift : PercentError → ε) (format : String) (args : Arguments ε) :
    Except ε String := do
  let cs := format.toList
  let (out, left) ← percentFrom lift args.named cs.length (cs.length + 1) args.items cs
  if !left.isEmpty && args.named.isNone then throw (lift .notAllUsed)
  return String.ofList out

end ImagePreload.Format
