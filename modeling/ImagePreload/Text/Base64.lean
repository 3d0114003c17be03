/-!
# Base 64

Reading is lenient: characters outside the alphabet are skipped, and only the count of the others
and their padding can make the text ill-formed.
-/

namespace ImagePreload.Text

def base64Digit? (c : Char) : Option Nat :=
  if 'A' ≤ c && c ≤ 'Z' then some (c.toNat - 65)
  else if 'a' ≤ c && c ≤ 'z' then some (c.toNat - 71)
  else if c.isDigit then some (c.toNat + 4)
  else if c == '+' then some 62
  else if c == '/' then some 63
  else none

inductive Base64Error where
  /-- The digits cannot be grouped: one is left over. -/
  | leftOver (digits : Nat)
  | padding

/-- Reads the digits in groups of four; `held` are the digits of the group under way and `pads`
counts its padding signs. -/
def decodeBase64From (count : Nat) (held : List Nat) (pads : Nat) :
    List Char → Except Base64Error (List UInt8)
  | [] =>
    match held with
    | [] => .ok []
    | [_] => .error (.leftOver count)
    | _ => .error .padding
  | c :: cs =>
    if c == '=' then
      match held with
      | [a, b] => if pads == 1 then .ok [UInt8.ofNat (a * 4 + b / 16)]
                  else decodeBase64From count held (pads + 1) cs
      | [a, b, d] => .ok [UInt8.ofNat (a * 4 + b / 16), UInt8.ofNat (b % 16 * 16 + d / 4)]
      | _ => decodeBase64From count held pads cs
    else
      match base64Digit? c with
      | none => decodeBase64From count held pads cs
      | some v =>
        match held with
        | [a, b, d] =>
          (decodeBase64From (count + 1) [] 0 cs).map fun rest =>
            UInt8.ofNat (a * 4 + b / 16) :: UInt8.ofNat (b % 16 * 16 + d / 4)
              :: UInt8.ofNat (d % 4 * 64 + v) :: rest
        | _ => decodeBase64From (count + 1) (held ++ [v]) 0 cs

def decodeBase64 (s : String) : Except Base64Error (List UInt8) :=
  decodeBase64From 0 [] 0 s.toList

end ImagePreload.Text
