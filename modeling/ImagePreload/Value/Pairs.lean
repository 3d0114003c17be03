import ImagePreload.Value

/-!
# Mappings from sequences of pairs

Where a mapping is wanted, a sequence of pairs does as well: every item is a sequence of two, a key
and its value.
-/

namespace ImagePreload

/-- Why a value does not make a mapping. -/
inductive PairsError where
  | notIterable (typeName : String)
  | notASequence (position : Nat)
  | wrongLength (position length : Nat)
  | badKey (typeName : String)
  deriving DecidableEq, Repr

def PairsError.isLength : PairsError → Bool
  | .wrongLength .. => true
  | _ => false

def PairsError.message : PairsError → String
  | .notIterable t => "'" ++ t ++ "' object is not iterable"
  | .notASequence i =>
    "cannot convert dictionary update sequence element #" ++ toString i ++ " to a sequence"
  | .wrongLength i n =>
    "dictionary update sequence element #" ++ toString i ++ " has length " ++ toString n
      ++ "; 2 is required"
  | .badKey t => "unhashable type: '" ++ t ++ "'"

namespace Value

/-- The items a value yields one after the other, a mapping its keys and a text its characters. -/
def elements? : Value → Option (List Value)
  | .text s => some (s.toList.map fun c => .text (.singleton c))
  | .bytes data => some (data.map fun b => .int b.toNat)
  | .list items | .tuple items | .set items => some items
  | .map entries => some (Entries.keys entries)
  | _ => none

private def pairsFrom (position : Nat) (done : Entries) : List Value → Except PairsError Entries
  | [] => .ok done
  | v :: vs =>
    match v.elements? with
    | none => .error (.notASequence position)
    | some [key, value] =>
      match key.unkeyable with
      | some bad => .error (.badKey bad.typeName)
      | none => pairsFrom (position + 1) (done.insert key value) vs
    | some items => .error (.wrongLength position items.length)

/-- The entries of a mapping, or of a sequence of pairs. -/
def entries : Value → Except PairsError Entries
  | .map entries => .ok entries
  | v =>
    match v.elements? with
    | some items => pairsFrom 0 [] items
    | none => .error (.notIterable v.typeName)

/-- The entries of a value, of which one that counts as false has none. -/
def entriesOrEmpty (v : Value) : Except PairsError Entries :=
  if v.truthy then v.entries else .ok []

end Value

end ImagePreload
