import ImagePreload.Text.Ranges

/-!
# Decimal digits of all scripts

Every script writes its ten digits at consecutive code points, so a table of the zeros fixes the
value of each.
-/

namespace ImagePreload.Text

/-- The digit zero of every script. -/
def digitZeros : Ranges := .read
  ["30 660 6f0 7c0 966 9e6 a66 ae6 b66 be6 c66 ce6 d66 de6 e50 ed0 f20 1040 1090 17e0 1810 1946",
    "19d0 1a80 1a90 1b50 1bb0 1c40 1c50 a620 a8d0 a900 a9d0 a9f0 aa50 abf0 ff10 104a0 10d30 11066",
    "110f0 11136 111d0 112f0 11450 114d0 11650 116c0 11730 118e0 11950 11c50 11d50 11da0 16a60",
    "16ac0 16b50 1d7ce 1d7d8 1d7e2 1d7ec 1d7f6 1e140 1e2f0 1e950 1fbf0"]

/-- The value of a decimal digit of any script. -/
def digitValue? (c : Char) : Option Nat :=
  if c.toNat < 0x80 then
    if c.isDigit then some (c.toNat - 48) else none
  else (List.range 10).find? fun d => c.toNat ≥ d && digitZeros.containsCode (c.toNat - d)

def isDecimalDigit (c : Char) : Bool := (digitValue? c).isSome

/-- The value of an ASCII digit in the given base, at most thirty-six. -/
def baseDigit? (base : Nat) (c : Char) : Option Nat :=
  let d :=
    if c.isDigit then some (c.toNat - 48)
    else if 'a' ≤ c && c ≤ 'z' then some (c.toNat - 87)
    else if 'A' ≤ c && c ≤ 'Z' then some (c.toNat - 55)
    else none
  d.filter (· < base)

end ImagePreload.Text
