import ImagePreload.Text.Quoted

/-!
# JSON text

Texts are written in ASCII: other characters are given by their UTF-16 units. Without an indentation
everything stands on one line, with one every item gets a line of its own.
-/

namespace ImagePreload

inductive Json where
  | null
  | bool (b : Bool)
  /-- A number in its written form. -/
  | number (written : String)
  | text (s : String)
  | array (items : List Json)
  | object (fields : List (String × Json))

namespace Json

/-- A character inside double quotes. -/
def escapeChar (c : Char) : List Char :=
  let n := c.toNat
  if c == '"' then ['\\', '"']
  else if c == '\\' then ['\\', '\\']
  else if c == '\n' then ['\\', 'n']
  else if c == '\r' then ['\\', 'r']
  else if c == '\t' then ['\\', 't']
  else if c == '\x08' then ['\\', 'b']
  else if c == '\x0c' then ['\\', 'f']
  else if 0x20 ≤ n && n ≤ 0x7e then [c]
  else if n ≤ 0xffff then '\\' :: 'u' :: Text.hexPadded 4 n
  else
    let m := n - 0x10000
    '\\' :: 'u' :: Text.hexPadded 4 (0xd800 + m / 0x400)
      ++ '\\' :: 'u' :: Text.hexPadded 4 (0xdc00 + m % 0x400)

def quote (s : String) : String :=
  "\"" ++ String.ofList (s.toList.flatMap escapeChar) ++ "\""

/-- A line break and the indentation of a level, or nothing. -/
def lineStart (indent : Option Nat) (level : Nat) : String :=
  match indent with
  | none => ""
  | some n => "\n" ++ String.ofList (List.replicate (n * level) ' ')

/-- Parts between brackets, each on a line of its own if there is an indentation. -/
def enclose (indent : Option Nat) (level : Nat) (opening closing : String)
    (parts : List String) : String :=
  if parts.isEmpty then opening ++ closing
  else
    let separator := (if indent.isNone then ", " else ",") ++ lineStart indent (level + 1)
    opening ++ lineStart indent (level + 1) ++ separator.intercalate parts
      ++ lineStart indent level ++ closing

mutual

def renderAt (indent : Option Nat) (level : Nat) : Json → String
  | .null => "null"
  | .bool b => if b then "true" else "false"
  | .number written => written
  | .text s => quote s
  | .array items => enclose indent level "[" "]" (renderItems indent (level + 1) items)
  | .object fields =>
    enclose indent level "\x7b" "\x7d" (renderFields indent (level + 1) fields)

def renderItems (indent : Option Nat) (level : Nat) : List Json → List String
  | [] => []
  | item :: items => renderAt indent level item :: renderItems indent level items

def renderFields (indent : Option Nat) (level : Nat) : List (String × Json) → List String
  | [] => []
  | (k, v) :: rest =>
    (quote k ++ ": " ++ renderAt indent level v) :: renderFields indent level rest

end

/-- The text of a document, indented by the given number of spaces per level if there is one. -/
def render (indent : Option Nat) (j : Json) : String := renderAt indent 0 j

end Json

end ImagePreload
