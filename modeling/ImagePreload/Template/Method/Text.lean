import ImagePreload.Format.Brace
import ImagePreload.Format.Spec
import ImagePreload.Template.Arguments
import ImagePreload.Template.Slice
import ImagePreload.Text.Blank
import ImagePreload.Text.Case
import ImagePreload.Text.Letter
import ImagePreload.Text.Lines
import ImagePreload.Text.Utf8
import ImagePreload.Text.Width

/-!
# What texts can do

The functions that every text has. Searches may be limited to a part of the text; tests of
characters are false for the empty text.
-/

namespace ImagePreload.Template.TextMethod

/-- The functions of a text and how they count their arguments. -/
def all : List (String × Counting) :=
  [("capitalize", .never), ("casefold", .never), ("center", .expected 1 2), ("count", .takes 1 3),
    ("encode", .named ["encoding", "errors"]), ("endswith", .takes 1 3),
    ("expandtabs", .named ["tabsize"]), ("find", .takes 1 3), ("format", .free),
    ("format_map", .one), ("index", .takes 1 3), ("isalnum", .never), ("isalpha", .never),
    ("isascii", .never), ("isdecimal", .never), ("isdigit", .never), ("isidentifier", .never),
    ("islower", .never), ("isnumeric", .never), ("isprintable", .never), ("isspace", .never),
    ("istitle", .never), ("isupper", .never), ("join", .one), ("ljust", .expected 1 2),
    ("lower", .never), ("lstrip", .expected 0 1), ("partition", .one), ("removeprefix", .one),
    ("removesuffix", .one), ("replace", .expected 2 3), ("rfind", .takes 1 3),
    ("rindex", .takes 1 3), ("rjust", .expected 1 2), ("rpartition", .one),
    ("rsplit", .named ["sep", "maxsplit"]), ("rstrip", .expected 0 1),
    ("split", .named ["sep", "maxsplit"]), ("splitlines", .named ["keepends"]),
    ("startswith", .takes 1 3), ("strip", .expected 0 1), ("swapcase", .never), ("title", .never),
    ("translate", .one), ("upper", .never), ("zfill", .one)]

open Eval

/-- What an argument is called where it is of the wrong sort. -/
private def argumentType : Datum → String
  | .null => "None"
  | d => d.typeName

private def needText (d : Datum) : Eval (List Char) :=
  match d with
  | .text s _ => return s.toList
  | d => fail (.type ("must be str, not " ++ d.typeName))

private def bound (d : Option Datum) : Eval (Option Int) :=
  match d with
  | none | some .null => return none
  | some (.int n) => return some n
  | some (.bool b) => return some (if b then 1 else 0)
  | some _ =>
    fail (.type "slice indices must be integers or None or have an __index__ method")

/-- The searched part of a text and where it starts, none if it starts behind the end. -/
private def searched (cs : List Char) (args : List Datum) : Eval (Option (List Char × Nat)) := do
  let start ← bound args[0]?
  let stop ← bound args[1]?
  let n := cs.length
  let first := (start.map (Slice.clamp n 0 (n + 1))).getD 0
  let last := (stop.map (Slice.clamp n 0 n)).getD n
  if first > last then return none
  else return some (cs.drop first.toNat |>.take (last - first).toNat, first.toNat)

private def limit (d : Option Datum) : Eval (Option Nat) :=
  match d with
  | none | some .null => return none
  | some d => do
    let n ← index d
    return if n < 0 then none else some n.toNat

private def findFirst (part cs : List Char) (args : List Datum) : Eval (Option Nat) := do
  match ← searched cs args with
  | none => return none
  | some (cs, start) => return (Text.find? part cs).map (· + start)

private def findLast (part cs : List Char) (args : List Datum) : Eval (Option Nat) := do
  match ← searched cs args with
  | none => return none
  | some (cs, start) => return (Text.breakAtLast? part cs).map (·.1.length + start)

private def position (r : Option Nat) : Datum := .int ((r.map Int.ofNat).getD (-1))

private def foundOr (r : Option Nat) : Eval Datum :=
  match r with
  | some n => return .int n
  | none => fail (.value "substring not found")

/-- Whether one of the texts stands at the start, or at the end if the texts are reversed. -/
private def standsAt (name : String) (reversed : Bool) (cs : List Char) (args : List Datum) :
    Eval Datum := do
  let candidates ←
    match args with
    | .text s _ :: _ => pure [s.toList]
    | .tuple items :: _ => items.mapM fun
      | .text s _ => pure s.toList
      | d => fail (.type ("tuple for " ++ name ++ " must only contain str, not " ++ d.typeName))
    | d :: _ =>
      fail (.type (name ++ " first arg must be str or a tuple of str, not " ++ d.typeName))
    | [] => pure []
  match ← searched cs (args.drop 1) with
  | none => return .bool false
  | some (cs, _) =>
    return .bool (candidates.any fun part =>
      if reversed then (Text.dropPart? part.reverse cs.reverse).isSome
      else (Text.dropPart? part cs).isSome)

private def stripped (name : String) (left right : Bool) (cs : List Char) (args : List Datum) :
    Eval (List Char) := do
  let inSet ←
    match args with
    | [] | [.null] => pure Text.isBlank
    | .text s _ :: _ => pure fun c => s.toList.contains c
    | _ => fail (.type (name ++ " arg must be None or str"))
  let cs := if left then cs.dropWhile inSet else cs
  return if right then (cs.reverse.dropWhile inSet).reverse else cs

private def fillChar (args : List Datum) : Eval Char :=
  match args with
  | [] => return ' '
  | .text s _ :: _ =>
    match s.toList with
    | [c] => return c
    | _ => fail (.type "The fill character must be exactly one character long")
  | d :: _ =>
    fail (.type ("The fill character must be a unicode character, not " ++ d.typeName))

/-- A text in the middle of a width; of an odd rest the larger half goes to the left when the width
is odd. -/
def centered (fill : Char) (width : Int) (cs : List Char) : List Char :=
  let missing := (width - cs.length).toNat
  let left := missing / 2 + (if missing % 2 == 1 && width % 2 == 1 then 1 else 0)
  List.replicate left fill ++ cs ++ List.replicate (missing - left) fill

/-- The words of a text, at most `limit` of them cut off from the left; the rest is one part. -/
private def splitBlanks : Nat → Option Nat → List Char → List (List Char)
  | 0, _, _ => []
  | fuel + 1, limit, cs =>
    match Text.dropBlanks cs with
    | [] => []
    | cs =>
      if limit == some 0 then [cs]
      else
        let (word, rest) := cs.span (!Text.isBlank ·)
        word :: splitBlanks fuel (limit.map (· - 1)) rest

private def splitParts (fromEnd : Bool) (cs : List Char) (args : List Datum) :
    Eval (List (List Char)) := do
  let most ← limit args[1]?
  match args.head? with
  | none | some .null =>
    if fromEnd then
      return ((splitBlanks (cs.length + 1) most cs.reverse).map List.reverse).reverse
    else return splitBlanks (cs.length + 1) most cs
  | some (.text sep _) =>
    if sep.isEmpty then fail (.value "empty separator")
    else return (if fromEnd then Text.splitOnEnd else Text.splitOn) sep.toList most cs
  | some d => fail (.type ("must be str or None, not " ++ d.typeName))

private def partition (fromEnd : Bool) (cs : List Char) (d : Datum) :
    Eval (List (List Char)) := do
  let sep ← needText d
  if sep.isEmpty then fail (.value "empty separator")
  else if fromEnd then
    return match Text.breakAtLast? sep cs with
    | some (a, b) => [a, sep, b]
    | none => [[], [], cs]
  else
    return match Text.breakAt? sep cs with
    | some (a, b) => [a, sep, b]
    | none => [cs, [], []]

private def expandTabs (size : Nat) (column : Nat) : List Char → List Char
  | [] => []
  | '\t' :: cs =>
    let n := if size == 0 then 0 else size - column % size
    List.replicate n ' ' ++ expandTabs size (column + n) cs
  | c :: cs => c :: expandTabs size (if c == '\n' || c == '\r' then 0 else column + 1) cs

private def zeroFill (width : Int) (cs : List Char) : List Char :=
  let zeros := List.replicate (width - cs.length).toNat '0'
  match cs with
  | c :: rest => if c == '+' || c == '-' then c :: zeros ++ rest else zeros ++ cs
  | [] => zeros

private def isNonEmptyAll (p : Char → Bool) (cs : List Char) : Bool := !cs.isEmpty && cs.all p

private def superscriptDigits : List Nat :=
  [0xb2, 0xb3, 0xb9, 0x2070, 0x2074, 0x2075, 0x2076, 0x2077, 0x2078, 0x2079]

private def isDigitLike (c : Char) : Bool :=
  Text.isDecimalDigit c || superscriptDigits.contains c.toNat
    || (0x2080 ≤ c.toNat && c.toNat ≤ 0x2089)

/-- The texts of the items that are joined. -/
private def joinParts (d : Datum) : Eval (List Datum) := do
  match ← elements? d with
  | none => fail (.type "can only join an iterable")
  | some items =>
    match items.zipIdx.find? fun (d, _) => d.text?.isNone with
    | some (d, i) =>
      fail (.type ("sequence item " ++ toString i ++ ": expected str instance, "
        ++ d.typeName ++ " found"))
    | none => return items

private def translated (table : Datum) (c : Char) : Eval (List Char) := do
  match table with
  | .map ref =>
    match ← findEntry (.int c.toNat) (← mapEntries ref) with
    | none => return [c]
    | some .null => return []
    | some (.int n) => return [Char.ofNat n.toNat]
    | some (.text s _) => return s.toList
    | some _ =>
      fail (.type "character mapping must return integer, None or str")
  | d => fail (.type (Text.quoted d.typeName ++ " object is not subscriptable"))

private def encoded (s : String) (args : List Datum) : Eval Datum := do
  match args with
  | .null :: _ | [] => return .bytes s.toUTF8.toList
  | .text name _ :: _ =>
    let key := (name.toList.filter fun c => c != '-' && c != '_').map Char.toLower
    if key == "utf8".toList then return .bytes s.toUTF8.toList
    else if key == "ascii".toList then
      if s.toList.all (·.toNat < 0x80) then return .bytes s.toUTF8.toList
      else fail (.value ("'ascii' codec can't encode characters"))
    else fail (.value ("unknown encoding: " ++ name))
  | d :: _ =>
    fail (.type ("encode() argument 'encoding' must be str, not " ++ argumentType d))

/-- The result of a function of a text other than the formatting ones. -/
def apply (s : String) (safe : Bool) (name : String) (args : List Datum) : Eval Datum := do
  let cs := s.toList
  let text (cs : List Char) : Datum := .text (.ofList cs) safe
  let first := args.headD .null
  match name with
  | "capitalize" => return .text (Text.capitalize s) safe
  | "casefold" => return .text (Text.foldCase s) safe
  | "lower" => return .text (Text.lower s) safe
  | "upper" => return .text (Text.upper s) safe
  | "swapcase" => return .text (Text.swapCase s) safe
  | "title" => return .text (Text.titleWords s) safe
  | "center" => return text (centered (← fillChar (args.drop 1)) (← index first) cs)
  | "ljust" =>
    let width ← index first
    let fill ← fillChar (args.drop 1)
    return text (cs ++ List.replicate (width - cs.length).toNat fill)
  | "rjust" =>
    let width ← index first
    let fill ← fillChar (args.drop 1)
    return text (List.replicate (width - cs.length).toNat fill ++ cs)
  | "zfill" => return text (zeroFill (← index first) cs)
  | "count" =>
    let part ← needText first
    match ← searched cs (args.drop 1) with
    | none => return .int 0
    | some (cs, _) => return .int (Text.count part cs)
  | "find" => return position (← findFirst (← needText first) cs (args.drop 1))
  | "rfind" => return position (← findLast (← needText first) cs (args.drop 1))
  | "index" => foundOr (← findFirst (← needText first) cs (args.drop 1))
  | "rindex" => foundOr (← findLast (← needText first) cs (args.drop 1))
  | "startswith" => standsAt name false cs args
  | "endswith" => standsAt name true cs args
  | "strip" => return text (← stripped name true true cs args)
  | "lstrip" => return text (← stripped name true false cs args)
  | "rstrip" => return text (← stripped name false true cs args)
  | "removeprefix" =>
    match first with
    | .text part _ => return text ((Text.dropPart? part.toList cs).getD cs)
    | d => fail (.type ("removeprefix() argument must be str, not " ++ argumentType d))
  | "removesuffix" =>
    match first with
    | .text part _ =>
      return text (((Text.dropPart? part.toList.reverse cs.reverse).map List.reverse).getD cs)
    | d => fail (.type ("removesuffix() argument must be str, not " ++ argumentType d))
  | "split" => newList ((← splitParts false cs args).map text)
  | "rsplit" => newList ((← splitParts true cs args).map text)
  | "splitlines" =>
    let keep := match first with
      | .null => false
      | d => !(d matches .int 0 | .bool false)
    newList ((if keep then Text.linesWithEnds cs else Text.lines cs).map text)
  | "partition" => return .tuple ((← partition false cs first).map text)
  | "rpartition" => return .tuple ((← partition true cs first).map text)
  | "replace" =>
    match args with
    | .text part _ :: .text new newSafe :: rest =>
      let most ← limit rest.head?
      let new := if safe && !newSafe then escapeMarkup new else new
      return text (Text.replace part.toList new.toList most cs)
    | .text .. :: d :: _ => fail (.type ("replace() argument 2 must be str, not " ++ argumentType d))
    | d :: _ => fail (.type ("replace() argument 1 must be str, not " ++ argumentType d))
    | [] => return text cs
  | "join" =>
    let items ← joinParts first
    let parts ← items.mapM fun d => if safe then markup d else display d
    return .text (s.intercalate parts) safe
  | "expandtabs" =>
    let size ← match first with
      | .null => pure 8
      | d => index d
    return text (expandTabs size.toNat 0 cs)
  | "encode" => encoded s args
  | "translate" => return text (← cs.mapM (translated first)).flatten
  | "isalnum" => return .bool (isNonEmptyAll Text.isLetterOrNumeral cs)
  | "isalpha" => return .bool (isNonEmptyAll Text.isLetter cs)
  | "isascii" => return .bool (cs.all (·.toNat < 0x80))
  | "isdecimal" => return .bool (isNonEmptyAll Text.isDecimalDigit cs)
  | "isdigit" => return .bool (isNonEmptyAll isDigitLike cs)
  | "isidentifier" => return .bool (Text.isIdentifier cs)
  | "islower" => return .bool (Text.isLower s)
  | "isnumeric" => return .bool (isNonEmptyAll Text.isNumeral cs)
  | "isprintable" => return .bool (cs.all Text.isPrintable)
  | "isspace" => return .bool (isNonEmptyAll Text.isBlank cs)
  | "istitle" => return .bool (Text.isTitled s)
  | "isupper" => return .bool (Text.isUpper s)
  | _ => fail (.attribute "str" name)

/-- A datum under a specification. -/
def formatted (d : Datum) (spec : List Char) : Eval String := do
  let plain : Eval String := do
    if spec.isEmpty then display d
    else fail (.ofFormat (.unsupported d.typeName))
  match d with
  | .text s _ =>
    let spec ← ofResult ((Format.Spec.read .text "str" spec).mapError .ofFormat)
    ofResult ((Format.formatText spec s).mapError .ofFormat)
  | d =>
    match d.number? with
    | none => plain
    | some n =>
      if spec.isEmpty then plain
      else ofResult ((Format.formatNumber d.typeName spec n).mapError .ofFormat)

/-- What the fields of a format refer to. -/
structure Fields where
  /-- The positional arguments, if there may be any. -/
  positional : Option (List Datum)
  named : String → Eval Datum
  follow : Datum → Format.FieldStep → Eval Datum

private def ofBrace {α : Type} (r : Except Format.BraceError α) : Eval α :=
  ofResult (r.mapError fun e => .value e.message)

private def Fields.at (fields : Fields) (i : Nat) : Eval Datum :=
  match fields.positional with
  | none => fail (.value Format.BraceError.positionalField.message)
  | some args =>
    match args[i]? with
    | some d => return d
    | none =>
      fail (.index ("Replacement index " ++ toString i
        ++ " out of range for positional args tuple"))

private def followSteps (fields : Fields) : Nat → List Char → Datum → Eval Datum
  | 0, _, d => return d
  | fuel + 1, steps, d => do
    match ← ofBrace (Format.takeStep steps) with
    | none => return d
    | some (step, rest) => followSteps fields fuel rest (← fields.follow d step)

private def fieldValue (fields : Fields) (numbering : Format.Numbering) (name : List Char) :
    Eval (Datum × Format.Numbering) := do
  let (root, steps) ← ofBrace (Format.takeRoot name)
  let (d, numbering) ←
    match root with
    | .name name => pure (← fields.named name, numbering)
    | .next => do
      let (i, numbering) ← ofBrace (numbering.take none)
      pure (← fields.at i, numbering)
    | .position i => do
      let (i, numbering) ← ofBrace (numbering.take (some i))
      pure (← fields.at i, numbering)
  return (← followSteps fields (steps.length + 1) steps d, numbering)

private def converted (d : Datum) (conversion : Option Char) : Eval Datum := do
  match conversion with
  | none => return d
  | some 's' => return .plain (← display d)
  | some 'r' => return .plain (← quoted d)
  | some 'a' => return .plain (.ofList (Format.asciiOnly (← quoted d).toList))
  | some c => fail (.value (Format.BraceError.unknownConversion c).message)

/-- The pieces of a format filled in one after the other; `nested` fills in specifications. -/
def fillPieces (fields : Fields)
    (nested : Format.Numbering → List Char → Eval (String × Format.Numbering)) :
    Nat → Format.Numbering → List Char → Eval (String × Format.Numbering)
  | 0, numbering, _ => return ("", numbering)
  | fuel + 1, numbering, format => do
    match ← ofBrace (Format.takePiece format) with
    | none => return ("", numbering)
    | some (.text c, rest) =>
      let (out, numbering) ← fillPieces fields nested fuel numbering rest
      return (String.singleton c ++ out, numbering)
    | some (.field f, rest) =>
      let (d, numbering) ← fieldValue fields numbering f.name
      let d ← converted d f.conversion
      let (spec, numbering) ←
        if f.spec.contains '\x7b' then nested numbering f.spec
        else pure (String.ofList f.spec, numbering)
      let part ← formatted d spec.toList
      let (out, numbering) ← fillPieces fields nested fuel numbering rest
      return (part ++ out, numbering)

/-- A format with its fields filled in; `depth` says how deep specifications may contain fields. -/
def fillFields (fields : Fields) :
    Nat → Format.Numbering → List Char → Eval (String × Format.Numbering)
  | 0, _, _ => fail (.value Format.BraceError.tooDeep.message)
  | depth + 1, numbering, format =>
    fillPieces fields (fillFields fields depth) (format.length + 1) numbering format

end ImagePreload.Template.TextMethod
