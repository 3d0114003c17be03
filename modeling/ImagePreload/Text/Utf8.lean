import ImagePreload.Text.Quoted

/-!
# UTF-8

Decoding of a byte sequence, with the first ill-formed place and the reason when there is one.
Overlong forms, surrogates and numbers past the last code point are ill-formed at their second
byte, as the encoding's table of well-formed sequences has it.
-/

namespace ImagePreload.Text

inductive Utf8Reason where
  | invalidStart
  | invalidContinuation
  | unexpectedEnd

/-- An ill-formed place: the bytes from `first` up to and including `last`. -/
structure Utf8Error where
  reason : Utf8Reason
  first : Nat
  last : Nat
  byte : UInt8

def Utf8Reason.text : Utf8Reason → String
  | .invalidStart => "invalid start byte"
  | .invalidContinuation => "invalid continuation byte"
  | .unexpectedEnd => "unexpected end of data"

def Utf8Error.message (e : Utf8Error) : String :=
  let place :=
    if e.first == e.last then
      "byte 0x" ++ String.ofList (hexPadded 2 e.byte.toNat) ++ " in position " ++ toString e.first
    else "bytes in position " ++ toString e.first ++ "-" ++ toString e.last
  "'utf-8' codec can't decode " ++ place ++ ": " ++ e.reason.text

/-- How many bytes follow a leading byte, the range of the first of them, and the bits the leading
byte carries. -/
def utf8Lead (b : UInt8) : Option (Nat × UInt8 × UInt8 × Nat) :=
  let n := b.toNat
  if 0xc2 ≤ n && n ≤ 0xdf then some (1, 0x80, 0xbf, n - 0xc0)
  else if n == 0xe0 then some (2, 0xa0, 0xbf, 0)
  else if n == 0xed then some (2, 0x80, 0x9f, 0xd)
  else if 0xe1 ≤ n && n ≤ 0xef then some (2, 0x80, 0xbf, n - 0xe0)
  else if n == 0xf0 then some (3, 0x90, 0xbf, 0)
  else if 0xf1 ≤ n && n ≤ 0xf3 then some (3, 0x80, 0xbf, n - 0xf0)
  else if n == 0xf4 then some (3, 0x80, 0x8f, 4)
  else none

/-- A character under way: where it started, its leading byte, how many bytes are owed, the range
of the next one and the value so far. -/
structure Utf8Pending where
  start : Nat
  lead : UInt8
  owed : Nat
  low : UInt8
  high : UInt8
  value : Nat

def decodeUtf8From (pos : Nat) (pending : Option Utf8Pending) :
    List UInt8 → Except Utf8Error (List Char)
  | [] =>
    match pending with
    | none => .ok []
    | some p => .error ⟨.unexpectedEnd, p.start, pos - 1, p.lead⟩
  | b :: bs =>
    match pending with
    | none =>
      if b < 0x80 then (decodeUtf8From (pos + 1) none bs).map (Char.ofNat b.toNat :: ·)
      else
        match utf8Lead b with
        | none => .error ⟨.invalidStart, pos, pos, b⟩
        | some (owed, low, high, value) =>
          decodeUtf8From (pos + 1) (some ⟨pos, b, owed, low, high, value⟩) bs
    | some p =>
      if p.low ≤ b && b ≤ p.high then
        let value := p.value * 64 + (b.toNat - 0x80)
        if p.owed ≤ 1 then (decodeUtf8From (pos + 1) none bs).map (Char.ofNat value :: ·)
        else decodeUtf8From (pos + 1)
          (some { p with owed := p.owed - 1, low := 0x80, high := 0xbf, value }) bs
      else .error ⟨.invalidContinuation, p.start, pos - 1, p.lead⟩

/-- The text of a byte sequence. -/
def decodeUtf8 (bytes : List UInt8) : Except Utf8Error String :=
  (decodeUtf8From 0 none bytes).map String.ofList

/-- The bytes of a text. -/
def encodeUtf8 (s : String) : List UInt8 := s.toUTF8.toList

end ImagePreload.Text
