import ImagePreload.Template.Attribute

/-!
# Filters on texts

Words with capitals, indentation, shortening, line breaks at a width, and the forms of texts in
markup and in addresses.
-/

namespace ImagePreload.Template.Filter

open Eval

private def beginsWord (c : Char) : Bool :=
  Text.isBlank c || "-(\x7b[<".toList.contains c

private def capitalWord (word : List Char) : List Char :=
  match word with
  | [] => []
  | c :: rest =>
    (Text.upper (.singleton c)).toList ++ (Text.lower (.ofList rest)).toList

/-- Every word with a capital in front; words end at blanks, hyphens and opening brackets. -/
def titleCase (cs : List Char) : List Char :=
  let (word, done) := cs.foldr (fun c (word, done) =>
    if beginsWord c then ([], c :: (capitalWord word ++ done)) else (c :: word, done))
    (([] : List Char), ([] : List Char))
  capitalWord word ++ done

/-- How many words a text has. -/
def wordCount (cs : List Char) : Nat :=
  (cs.foldl (fun (n, inWord) c =>
    let word := Text.isWordChar c
    (if word && !inWord then n + 1 else n, word)) (0, false)).1

/-- The lines of a text behind an indentation; the first one and blank ones only if asked for. -/
def indented (indentation : List Char) (first blank : Bool) (cs : List Char) : List Char :=
  let mark (line : List Char) : List Char :=
    if blank || !line.isEmpty then indentation ++ line else line
  match Text.lines (cs ++ ['\n']) with
  | [] => []
  | line :: rest =>
    (if first then indentation else []) ++ Text.joinWith ['\n'] (line :: rest.map mark)

/-- Fails if a text cannot be cut at a length so that an ending fits in. -/
def checkTruncation (length leeway : Int) (ending : Nat) : Except TemplateError Unit :=
  if length < ending then
    .error (.assertion ("expected length >= " ++ toString ending ++ ", got " ++ toString length))
  else if leeway < 0 then
    .error (.assertion ("expected leeway >= 0, got " ++ toString leeway))
  else .ok ()

/-- A text cut at a length, at the end of a word unless words may be cut. -/
def truncated (length leeway : Int) (killWords : Bool) (ending cs : List Char) : List Char :=
  if cs.length ≤ length + leeway then cs
  else
    let cut := cs.take (length - ending.length).toNat
    if killWords then cut ++ ending
    else (((Text.breakAtLast? [' '] cut).map (·.1)).getD cut) ++ ending

/-! ## Line breaks -/

private def isSpace (c : Char) : Bool := " \t\n\x0b\x0c\r".toList.contains c

private def isWordLetter (c : Char) : Bool := Text.isWordChar c && !Text.isDecimalDigit c

/-- Whether a line may be broken behind a hyphen, given what is before and behind it. -/
private def breaksBehind (before after : List Char) : Bool :=
  let afterFits :=
    match after with
    | a :: '-' :: b :: _ | a :: b :: _ => isWordLetter a && isWordLetter b
    | _ => false
  let beforeFits :=
    match before with
    | b :: a :: _ =>
      isWordLetter a && isWordLetter b
        || (a == '-' && match before.drop 2 with
          | l :: _ => isWordLetter l
          | [] => false)
    | _ => false
  beforeFits && afterFits

/-- The pieces of a word that may stand on different lines. -/
private def hyphenParts (before : List Char) : List Char → List (List Char)
  | [] => if before.isEmpty then [] else [before.reverse]
  | '-' :: cs =>
    if breaksBehind before cs then (before.reverse ++ ['-']) :: hyphenParts [] cs
    else hyphenParts ('-' :: before) cs
  | c :: cs => hyphenParts (c :: before) cs

/-- Runs of blanks and pieces of words, in order. -/
private def chunks (hyphens : Bool) (cs : List Char) : List (List Char) :=
  (cs.splitBy fun a b => isSpace a == isSpace b).flatMap fun run =>
    if hyphens && !(run.any isSpace) then hyphenParts [] run else [run]

private def isBlankChunk (chunk : List Char) : Bool := chunk.all Text.isBlank

/-- As many chunks as fit into a width. -/
private def fitting (width : Nat) : List (List Char) → List (List Char) × List (List Char)
  | [] => ([], [])
  | chunk :: rest =>
    if chunk.length ≤ width then
      let (line, rest) := fitting (width - chunk.length) rest
      (chunk :: line, rest)
    else ([], chunk :: rest)

/-- Where a word that is too long is broken. -/
private def breakPoint (hyphens : Bool) (room : Nat) (chunk : List Char) : Nat :=
  if hyphens && chunk.length > room then
    match Text.breakAtLast? ['-'] (chunk.take room) with
    | some (before, _) =>
      if before.any (· != '-') then before.length + 1 else room
    | none => room
  else room

private def linesFrom (width : Nat) (breakWords hyphens : Bool) :
    Nat → Bool → List (List Char) → List (List Char)
  | 0, _, _ => []
  | _ + 1, _, [] => []
  | fuel + 1, isFirst, chunk :: rest =>
    let waiting := if isBlankChunk chunk && !isFirst then rest else chunk :: rest
    let (line, rest) := fitting width waiting
    let used := (line.map List.length).sum
    let (line, rest) :=
      match rest with
      | long :: more =>
        if long.length > width then
          if breakWords then
            let n := breakPoint hyphens (width - used) long
            (line ++ [long.take n], long.drop n :: more)
          else if line.isEmpty then ([long], more)
          else (line, rest)
        else (line, rest)
      | [] => (line, rest)
    let line :=
      match line.getLast? with
      | some last => if isBlankChunk last then line.dropLast else line
      | none => line
    if line.isEmpty then linesFrom width breakWords hyphens fuel isFirst rest
    else line.flatten :: linesFrom width breakWords hyphens fuel false rest

/-- A line broken into lines that are no wider than a width, if possible. -/
def wrapped (width : Nat) (breakWords hyphens : Bool) (cs : List Char) : List (List Char) :=
  linesFrom width breakWords hyphens (2 * cs.length + 2) true
    ((chunks hyphens cs).filter (!·.isEmpty))

/-! ## Markup and addresses -/

/-- A text without what stands between the two marks. -/
private def without (opening closing : List Char) : Nat → List Char → List Char
  | 0, cs => cs
  | fuel + 1, cs =>
    match Text.breakAt? opening cs with
    | none => cs
    | some (before, rest) =>
      match Text.breakAt? closing rest with
      | none => cs
      | some (_, after) => before ++ without opening closing fuel after

private def entities : List (String × Char) :=
  [("&lt;", '<'), ("&gt;", '>'), ("&quot;", '"'), ("&#34;", '"'), ("&#39;", '\''), ("&apos;", '\''),
    ("&nbsp;", '\u00a0'), ("&amp;", '&')]

/-- A text without markup. -/
def withoutTags (cs : List Char) : List Char :=
  let n := cs.length
  let cs := without "<!--".toList "-->".toList n cs
  let cs := without ['<'] ['>'] n cs
  let cs := Text.joinWith [' '] (Text.words cs)
  entities.foldl (fun cs (name, c) => Text.replace name.toList [c] none cs) cs

/-- A text in which all but letters, digits and a few marks are written as bytes. -/
def quotedAddress (kept : List Char) (cs : List Char) : List Char :=
  (String.ofList cs).toUTF8.toList.flatMap fun b =>
    let c := Char.ofNat b.toNat
    if b.toNat < 0x80 && (c.isAlphanum || "_.-~".toList.contains c || kept.contains c) then [c]
    else '%' :: (Text.hexPadded 2 b.toNat).map Char.toUpper

/-- A text as a part of a query, with a plus sign for a blank. -/
def quotedQuery (cs : List Char) : List Char :=
  Text.replace "%20".toList ['+'] none (quotedAddress [] cs)

/-- A count of bytes in a unit that suits it. -/
def fileSize (binary : Bool) (x : Float) : String :=
  let base : Nat := if binary then 1024 else 1000
  let units :=
    if binary then ["KiB", "MiB", "GiB", "TiB", "PiB", "EiB", "ZiB", "YiB"]
    else ["kB", "MB", "GB", "TB", "PB", "EB", "ZB", "YB"]
  let shown (unit : Float) (name : String) : String :=
    let y := base.toFloat * x / unit
    match Decimal.shape y with
    | .finite b =>
      let (n, d) := b.fraction
      (if b.negative then "-" else "") ++ String.ofList (Decimal.fixedText n d 1) ++ " " ++ name
    | _ => Decimal.floatText y ++ " " ++ name
  let size (i : Nat) : Float := (Nat.pow base (i + 2)).toFloat
  if x == 1.0 then "1 Byte"
  else if x < base.toFloat then
    match Number.truncate x with
    | .ok n => toString n ++ " Bytes"
    | .error _ => Decimal.floatText x ++ " Bytes"
  else
    match units.zipIdx.find? fun (_, i) => x < size i with
    | some (name, i) => shown (size i) name
    | none => shown (size 7) "YB"

/-- A word with a link around it if it is an address. -/
private def linked (attributes : String) (limit : Option Nat) (word : List Char) : String :=
  let escaped := escapeMarkup (.ofList word)
  let link (target : String) : String :=
    let shown :=
      match limit with
      | some n =>
        if word.length > n then escapeMarkup (.ofList (word.take n)) ++ "..." else escaped
      | none => escaped
    "<a href=\"" ++ target ++ "\"" ++ attributes ++ ">" ++ shown ++ "</a>"
  if (Text.dropPart? "http://".toList word).isSome || (Text.dropPart? "https://".toList word).isSome
  then link escaped
  else if (Text.dropPart? "www.".toList word).isSome then link ("https://" ++ escaped)
  else escaped

/-- A text whose addresses are links. -/
def withLinks (attributes : String) (limit : Option Nat) (cs : List Char) : String :=
  String.join ((cs.splitBy fun a b => Text.isBlank a == Text.isBlank b).map
    (linked attributes limit))

end ImagePreload.Template.Filter
