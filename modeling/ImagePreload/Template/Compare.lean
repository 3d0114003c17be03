import ImagePreload.Template.Display
import ImagePreload.Text.Search

/-!
# Comparing data

Numbers are equal by value, texts by their characters, containers by what is in them. Only data of
one sort have an order. A strict missing value cannot be compared with anything.
-/

namespace ImagePreload.Template

namespace Datum

/-- The items a sequence-like datum holds for the purpose of comparing it. -/
private def shape (cells : Array Cell) : Datum → Datum ⊕ (String × List Datum)
  | .tuple items => .inr ("tuple", items)
  | .group key items => .inr ("tuple", [key, items])
  | .list ref =>
    match cells.getD ref default with
    | .list items => .inr ("list", items)
    | _ => .inr ("list", [])
  | .range start stop step => .inr ("range", rangeItems start stop step)
  | d => .inl d

private def entriesOf (cells : Array Cell) (ref : Nat) : List (Datum × Datum) :=
  match cells.getD ref default with
  | .map entries => entries
  | _ => []

/-- Whether two data are equal. -/
def equalIn (cells : Array Cell) : Nat → Datum → Datum → Bool
  | 0, _, _ => false
  | fuel + 1, a, b =>
    match shape cells a, shape cells b with
    | .inr (s, as), .inr (t, bs) =>
      s == t && as.length == bs.length && (as.zip bs).all fun (x, y) => equalIn cells fuel x y
    | .inl a, .inl b =>
      match a, b with
      | .null, .null => true
      | .text s _, .text t _ => s == t
      | .bytes s, .bytes t => s == t
      | .date s, .date t => s == t
      | .time s, .time t => s == t
      | .undefined s _, .undefined t _ => s == t
      | .set as, .set bs =>
        as.length == bs.length && as.all fun x => bs.any (equalIn cells fuel x)
      | .map r, .map s =>
        let as := entriesOf cells r
        let bs := entriesOf cells s
        r == s || (as.length == bs.length && as.all fun (k, v) =>
          bs.any fun (k', v') => equalIn cells fuel k k' && equalIn cells fuel v v')
      | .builtin f, .builtin g => f == g
      | .closure r, .closure s | .stream r, .stream s | .loop r, .loop s | .cycler r, .cycler s
      | .joiner r, .joiner s | .fields r, .fields s => r == s
      | .view p r, .view q s => p == q && r == s
      | .method x f, .method y g => f == g && equalIn cells fuel x y
      | .type s, .type t => s == t
      | .blocks, .blocks => true
      | a, b =>
        match a.number?, b.number? with
        | some m, some n => m.equal n
        | _, _ => false
    | _, _ => false

/-- The order of two data, the smaller of two rows being the one that is smaller at the first
difference; an error names the types that have none. -/
def orderIn (cells : Array Cell) : Nat → Datum → Datum → Except (String × String) (Option Ordering)
  | 0, a, b => .error (a.typeName, b.typeName)
  | fuel + 1, a, b =>
    let none? : Except (String × String) (Option Ordering) := .error (a.typeName, b.typeName)
    match shape cells a, shape cells b with
    | .inr (s, as), .inr (t, bs) =>
      if s == t && s != "range" then
        match (as.zip bs).find? fun (x, y) => !equalIn cells fuel x y with
        | some (x, y) => orderIn cells fuel x y
        | none => .ok (some (compare as.length bs.length))
      else none?
    | .inl a, .inl b =>
      match a, b with
      | .text s _, .text t _ => .ok (some (compare s t))
      | .bytes s, .bytes t => .ok (some (compare (s.map (·.toNat)) (t.map (·.toNat))))
      | .date s, .date t => .ok (some (compare (Calendar.dayNumber s) (Calendar.dayNumber t)))
      | .time s, .time t =>
        if s.offset.isSome != t.offset.isSome then none?
        else
          let key (t : DateTime) : Int := Calendar.epochSeconds t * 1000000 + t.microsecond
          .ok (some (compare (key s) (key t)))
      | a, b =>
        match a.number?, b.number? with
        | some m, some n => .ok (m.compare? n)
        | _, _ => none?
    | _, _ => none?

end Datum

namespace Eval

/-- Fails if the datum is a missing value that must not be used. -/
def checkUse (d : Datum) : Eval Unit :=
  match d with
  | .undefined .strict message => fail (.undefined message)
  | _ => return ()

/-- Fails if the datum is a missing value of any sort. -/
def checkDefined (d : Datum) : Eval Unit :=
  match d with
  | .undefined _ message => fail (.undefined message)
  | _ => return ()

def equal (a b : Datum) : Eval Bool := do
  checkUse a
  checkUse b
  fun m => .ok (a.equalIn m.cells displayDepth b, m)

/-- Equality where a strict missing value is only equal to others of its sort. -/
def sameKey (a b : Datum) : Eval Bool := fun m => .ok (a.equalIn m.cells displayDepth b, m)

/-- The order of two data for an operator of the given name. -/
def order (op : String) (a b : Datum) : Eval (Option Ordering) := do
  checkDefined a
  checkDefined b
  fun m =>
    match a.orderIn m.cells displayDepth b with
    | .ok o => .ok (o, m)
    | .error (s, t) => .error (.ordering op s t)

def less (a b : Datum) : Eval Bool := return (← order "<" a b) == some .lt

/-- Whether a datum counts as true: it is neither null, false, zero nor empty. -/
def truthy (d : Datum) : Eval Bool :=
  match d with
  | .null => return false
  | .bool b => return b
  | .int n => return n != 0
  | .float x => return !(x == 0.0)
  | .text s _ => return !s.isEmpty
  | .bytes data => return !data.isEmpty
  | .undefined .strict message => fail (.undefined message)
  | .undefined .. => return false
  | .tuple items | .set items => return !items.isEmpty
  | .range start stop step => return Datum.rangeLength start stop step != 0
  | .list ref => return !(← listItems ref).isEmpty
  | .map ref | .view _ ref => return !(← mapEntries ref).isEmpty
  | _ => return true

/-- The items a datum yields one after the other, if it yields any. -/
def elements? (d : Datum) : Eval (Option (List Datum)) :=
  match d with
  | .text s _ => return some (s.toList.map fun c => .plain (.singleton c))
  | .bytes data => return some (data.map fun b => .int b.toNat)
  | .undefined .strict message => fail (.undefined message)
  | .undefined .. => return some []
  | .tuple items | .set items => return some items
  | .group key items => return some [key, items]
  | .range start stop step => return some (Datum.rangeItems start stop step)
  | .list ref => return some (← listItems ref)
  | .map ref | .view .keys ref => return some ((← mapEntries ref).map (·.1))
  | .view .values ref => return some ((← mapEntries ref).map (·.2))
  | .view .items ref => return some ((← mapEntries ref).map fun (k, v) => .tuple [k, v])
  | .stream ref => return some (← drain ref)
  | .loop ref => do
    -- what a loop still has to go through
    match ← cell ref with
    | .loop l =>
      store ref (.loop { l with index := l.items.length })
      return some (l.items.drop (l.index + 1))
    | _ => return some []
  | _ => return none

def elements (d : Datum) : Eval (List Datum) := do
  match ← elements? d with
  | some items => return items
  | none => fail (.notIterable d.typeName)

/-- How many items a datum has. -/
def length (d : Datum) : Eval Nat := do
  match d with
  | .stream _ => fail (.noLength d.typeName)
  | .loop ref =>
    match ← cell ref with
    | .loop l => return l.items.length
    | _ => return 0
  | d =>
    match ← elements? d with
    | some items => return items.length
    | none => fail (.noLength d.typeName)

/-- Whether one of the items is equal to the datum. -/
def anyEqual (d : Datum) : List Datum → Eval Bool
  | [] => return false
  | x :: xs => do if ← equal x d then return true else anyEqual d xs

/-- Whether a datum may be a key of a mapping. -/
def checkKey (d : Datum) : Eval Unit :=
  match d with
  | .list _ | .map _ | .set _ => fail (.type ("unhashable type: '" ++ d.typeName ++ "'"))
  | .undefined .strict message => fail (.undefined message)
  | .tuple items =>
    match items.find? fun
      | .list _ | .map _ | .set _ => true
      | _ => false with
    | some bad => fail (.type ("unhashable type: '" ++ bad.typeName ++ "'"))
    | none => return ()
  | .group .. => fail (.type "unhashable type: 'list'")
  | _ => return ()

/-- The value of a key among entries. -/
def findEntry (key : Datum) : List (Datum × Datum) → Eval (Option Datum)
  | [] => return none
  | (k, v) :: rest => do if ← sameKey k key then return some v else findEntry key rest

/-- Entries with the value of a key replaced where it stands, or added at the end. -/
def putEntry (key value : Datum) : List (Datum × Datum) → Eval (List (Datum × Datum))
  | [] => return [(key, value)]
  | (k, v) :: rest => do
    if ← sameKey k key then return (k, value) :: rest
    else return (k, v) :: (← putEntry key value rest)

/-- Entries without a key. -/
def dropEntry (key : Datum) : List (Datum × Datum) → Eval (List (Datum × Datum))
  | [] => return []
  | (k, v) :: rest => do
    if ← sameKey k key then return rest else return (k, v) :: (← dropEntry key rest)

/-- Entries of pairs in order, a later pair replacing an earlier one of the same key. -/
def entriesOfPairs (pairs : List (Datum × Datum)) : Eval (List (Datum × Datum)) :=
  pairs.foldlM (fun entries (k, v) => do
    checkKey k
    putEntry k v entries) []

/-- Whether a container holds a datum. -/
def contains (d container : Datum) : Eval Bool := do
  match container with
  | .text s _ =>
    checkDefined d
    match d with
    | .text part _ => return Text.occursIn part.toList s.toList
    | d => fail (.notContained d.typeName)
  | .map ref | .view .keys ref =>
    checkKey d
    return (← findEntry d (← mapEntries ref)).isSome
  | container =>
    match ← elements? container with
    | some items => anyEqual d items
    | none => fail (.notContainer container.typeName)

/-- The items that go on as the first two begin, rising or strictly falling, and the rest; the last
one so far comes first. -/
private def takeRun (lt : Datum → Datum → Eval Bool) (falling : Bool) (run : List Datum) :
    List Datum → Eval (List Datum × List Datum)
  | [] => return (run, [])
  | d :: ds => do
    match run with
    | [] => takeRun lt falling [d] ds
    | last :: _ =>
      if (← lt d last) == falling then takeRun lt falling (d :: run) ds else return (run, d :: ds)

/-- Where an item belongs among sorted ones, behind those that are equal to it: the place is
halved between `low` and `high`. -/
private def placeOf (lt : Datum → Datum → Eval Bool) (d : Datum) (sorted : Array Datum) :
    Nat → Nat → Nat → Eval Nat
  | 0, low, _ => return low
  | fuel + 1, low, high => do
    if low < high then
      let middle := low + (high - low) / 2
      if ← lt d (sorted.getD middle .null) then placeOf lt d sorted fuel low middle
      else placeOf lt d sorted fuel (middle + 1) high
    else return low

/-- Items in ascending order; equal ones keep their places. The order of comparisons decides which
of several pairs without an order is found first: it begins with the longest run. -/
def sortWith (lt : Datum → Datum → Eval Bool) (items : List Datum) : Eval (List Datum) := do
  match items with
  | first :: second :: rest =>
    let falling ← lt second first
    let (run, rest) ← takeRun lt falling [second, first] rest
    let run := if falling then run else run.reverse
    let sorted ← rest.foldlM (fun sorted d => do
      let n := sorted.size
      let place ← placeOf lt d sorted (n + 1) 0 n
      return sorted.insertIdxIfInBounds place d) run.toArray
    return sorted.toList
  | items => return items

end Eval

end ImagePreload.Template
