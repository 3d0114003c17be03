import ImagePreload.Template.Attribute

/-!
# Filters on sequences

Items may be looked at through an attribute, given as a path with points in it. Unless letter case
matters, texts are compared in lower case.
-/

namespace ImagePreload.Template.Filter

open Eval

/-- The steps of a path to an attribute. -/
def pathSteps (d : Datum) : List Datum :=
  match d with
  | .null => []
  | .text s _ =>
    (Text.splitOn ['.'] none s.toList).map fun part =>
      if !part.isEmpty && part.all Text.isDecimalDigit then
        .int (part.foldl (fun n c => n * 10 + (Text.digitValue? c).getD 0) 0 : Nat)
      else .plain (.ofList part)
  | d => [d]

/-- What a path leads to; a default stands in for whatever is missing on the way. -/
def follow (s : Setting) (steps : List Datum) (default : Datum) (d : Datum) : Eval Datum :=
  steps.foldlM (fun d step => do
    let d ← getItem s d step
    return if d.isUndefined && !(default matches .null) then default else d) d

/-- What an item is compared by. -/
def comparable (caseMatters : Bool) (d : Datum) : Datum :=
  match d with
  | .text s safe => if caseMatters then d else .text (Text.lower s) safe
  | d => d

def keyOf (s : Setting) (path : Datum) (caseMatters : Bool) (d : Datum) : Eval Datum :=
  return comparable caseMatters (← follow s (pathSteps path) .null d)

/-- The row of keys of an item for a list of attributes between commas. -/
def keysOf (s : Setting) (path : Datum) (caseMatters : Bool) (d : Datum) : Eval Datum := do
  match path with
  | .text paths _ =>
    let keys ← (Text.splitOn [','] none paths.toList).mapM fun path =>
      keyOf s (.plain (.ofList path)) caseMatters d
    return .tuple keys
  | path => return .tuple [← keyOf s path caseMatters d]

/-- Items in the order of their keys, equal ones in the order in which they came. -/
def sortBy (key : Datum → Eval Datum) (backwards : Bool) (items : List Datum) :
    Eval (List Datum) := do
  let keyed ← items.mapM fun d => do return .tuple [← key d, d]
  let keyed := if backwards then keyed.reverse else keyed
  let part (first : Bool) (d : Datum) : Datum :=
    match d with
    | .tuple [key, d] => if first then key else d
    | d => d
  let sorted ← sortWith (fun a b => less (part true a) (part true b)) keyed
  let sorted := sorted.map (part false)
  return if backwards then sorted.reverse else sorted

/-- Items of which no two have the same key. -/
def distinctBy (key : Datum → Eval Datum) (items : List Datum) : Eval (List Datum) := do
  let (kept, _) ← items.foldlM (fun (kept, seen) d => do
    let k ← key d
    checkKey k
    if ← anyEqual k seen then return (kept, seen) else return (d :: kept, k :: seen))
    (([] : List Datum), ([] : List Datum))
  return kept.reverse

/-- Neighbours with equal keys put together. -/
def runsBy (key : Datum → Eval Datum) : List Datum → Eval (List (Datum × List Datum))
  | [] => return []
  | d :: ds => do
    let k ← key d
    match ← runsBy key ds with
    | (k', run) :: runs =>
      if ← equal k k' then return (k, d :: run) :: runs else return (k, [d]) :: (k', run) :: runs
    | [] => return [(k, [d])]

/-- The item that comes out ahead of all others, the first one of several. -/
def extreme (ahead : Datum → Datum → Eval Bool) (key : Datum → Eval Datum) :
    List Datum → Eval (Option Datum)
  | [] => return none
  | d :: ds => do
    let k ← key d
    let (best, _) ← ds.foldlM (fun (best, bestKey) d => do
      let k ← key d
      if ← ahead k bestKey then return (d, k) else return (best, bestKey)) (d, k)
    return some best

def sumFrom (start : Datum) (items : List Datum) : Eval Datum := do
  match start with
  | .text .. => fail (.type "sum() can't sum strings [use ''.join(seq) instead]")
  | start => items.foldlM (binary .add) start

/-- Rows of a given length; the last one is filled up if there is something to fill it with. A row
begins when the one before is full, so a row of no items stands in front of one without end. -/
def batches (count : Int) (fill : Datum) (items : List Datum) : List (List Datum) :=
  let (row, rows) := items.foldl (fun (row, rows) d =>
    if (row.length : Int) == count then ([d], row.reverse :: rows) else (d :: row, rows))
    (([] : List Datum), ([] : List (List Datum)))
  let last :=
    if fill matches .null then row.reverse
    else row.reverse ++ List.replicate (count - row.length).toNat fill
  if row.isEmpty then rows.reverse else (last :: rows).reverse

/-- A given number of columns, as equal in length as possible. -/
def columns (count : Nat) (fill : Datum) (items : List Datum) : List (List Datum) :=
  let each := items.length / count
  let larger := items.length % count
  (List.range count).map fun i =>
    let start := i * each + min i larger
    let column := (items.drop start).take (each + (if i < larger then 1 else 0))
    if !(fill matches .null) && i ≥ larger then column ++ [fill] else column

/-- The items of a sequence from its end. -/
def backwards (d : Datum) : Eval (List Datum) := do
  match d with
  | .stream _ | .set _ | .loop _ =>
    fail (.type (Text.quoted d.typeName ++ " object is not reversible"))
  | d =>
    match ← elements? d with
    | some items => return items.reverse
    | none => fail (.type (Text.quoted d.typeName ++ " object is not reversible"))

/-- Items joined to a text. -/
def joined (separator : Datum) (items : List Datum) : Eval Datum := do
  if (← get).escaping then
    let isSafe (d : Datum) : Bool := d matches .text _ true
    if isSafe separator || items.any isSafe then
      return .text ((← markup separator).intercalate (← items.mapM markup)) true
    else return .plain ((← display separator).intercalate (← items.mapM display))
  else
    let separator ← display separator
    return .plain (separator.intercalate (← items.mapM display))

end ImagePreload.Template.Filter
