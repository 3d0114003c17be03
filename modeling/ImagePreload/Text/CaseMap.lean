import ImagePreload.Text.Ranges

/-!
# Character mappings

A mapping is written like a set of code points, each part followed by where it goes: `61-7a<20`
lies `20` above its images, `c0-de>20` lies below them, and `df=53.53` maps one character to
several. A character that no part names is mapped to itself.
-/

namespace ImagePreload.Text

inductive CaseTarget where
  | shift (delta : Int)
  | chars (image : List Char)

structure CaseRule where
  domain : Progression
  target : CaseTarget

structure CaseMap where
  rules : Array CaseRule

private def readCaseRule (s : List Char) : CaseRule :=
  let isMark (c : Char) : Bool := c == '<' || c == '>' || c == '='
  let domain := s.takeWhile (!isMark ·)
  let rest := s.dropWhile (!isMark ·)
  let (range, step) := (domain.takeWhile (· != '/'), (domain.dropWhile (· != '/')).drop 1)
  let (first, last) := (range.takeWhile (· != '-'), (range.dropWhile (· != '-')).drop 1)
  { domain :=
      { first := hexValue first
        last := hexValue (if last.isEmpty then first else last)
        step := if step.isEmpty then 1 else hexValue step }
    target :=
      match rest with
      | '<' :: delta => .shift (-(hexValue delta : Int))
      | '>' :: delta => .shift (hexValue delta)
      | _ :: image => .chars ((splitAtChar '.' image).map fun d => Char.ofNat (hexValue d))
      | [] => .shift 0 }

/-- Reads the written form of a mapping. -/
def CaseMap.read (lines : List String) : CaseMap :=
  ⟨(lines.flatMap fun line => (splitAtChar ' ' line.toList).map readCaseRule).toArray⟩

private def CaseMap.searchFrom (m : CaseMap) (code : Nat) : Nat → Nat → Nat → Nat
  | 0, lo, _ => lo
  | fuel + 1, lo, hi =>
    if lo ≥ hi then lo
    else
      let mid := (lo + hi) / 2
      match m.rules[mid]? with
      | some r =>
        if r.domain.first ≤ code then m.searchFrom code fuel (mid + 1) hi
        else m.searchFrom code fuel lo mid
      | none => lo

/-- The image of a character. -/
def CaseMap.apply (m : CaseMap) (c : Char) : List Char :=
  match m.searchFrom c.toNat (m.rules.size + 1) 0 m.rules.size with
  | 0 => [c]
  | n + 1 =>
    match m.rules[n]? with
    | some r =>
      if r.domain.contains c.toNat then
        match r.target with
        | .shift delta => [Char.ofNat (c.toNat + delta).toNat]
        | .chars image => image
      else [c]
    | none => [c]

end ImagePreload.Text
