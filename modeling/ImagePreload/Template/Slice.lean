/-!
# Parts of sequences

A part is given by where it starts, where it stops and the step in between. Positions may count from
the end and may lie outside; what lies outside is left out.
-/

namespace ImagePreload.Template.Slice

/-- A position in a sequence of the given length, counted from the end if it is negative. -/
def position? (length : Nat) (i : Int) : Option Nat :=
  let i := if i < 0 then i + length else i
  if 0 ≤ i && i < length then some i.toNat else none

/-- A boundary moved into the sequence; `low` and `high` are as far as it may go. -/
def clamp (length : Nat) (low high : Int) (i : Int) : Int :=
  let i := if i < 0 then i + length else i
  if i < low then low else if i > high then high else i

/-- The positions of a part with a step other than zero. -/
def positions (length : Nat) (start stop : Option Int) (step : Int) : List Nat :=
  if step > 0 then
    let start := (start.map (clamp length 0 length)).getD 0
    let stop := (stop.map (clamp length 0 length)).getD length
    let count := ((stop - start + step - 1) / step).toNat
    (List.range count).map fun (i : Nat) => (start + i * step).toNat
  else
    let start := (start.map (clamp length (-1) (length - 1))).getD (length - 1)
    let stop := (stop.map (clamp length (-1) (length - 1))).getD (-1)
    let count := ((start - stop - step - 1) / (-step)).toNat
    (List.range count).map fun (i : Nat) => (start + i * step).toNat

def part {α : Type} (items : List α) (start stop : Option Int) (step : Int) : List α :=
  let items := items.toArray
  (positions items.size start stop step).filterMap (items[·]?)

/-- The part between two boundaries. -/
def between {α : Type} (items : List α) (start stop : Option Int) : List α :=
  part items start stop 1

end ImagePreload.Template.Slice
