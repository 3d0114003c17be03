import ImagePreload.Value.Pairs
import ImagePreload.Yaml.Node
import ImagePreload.Yaml.Scalar

/-!
# From the tree to a value

A mapping must not repeat a key. The entry `<<` merges the entries of other mappings into its own:
the merged entries come first, the own ones replace them, and keys may then repeat.
-/

namespace ImagePreload.Yaml

/-- Entries of a mapping before keys are compared, and whether some were merged into them. -/
structure Pairs where
  entries : List (Value × Value)
  merged : Bool

/-- What a node may be asked for: its value, its entries if it is a mapping, and those of its items
if it is a sequence. -/
structure Built where
  tag : String
  value : Load Value
  pairs : Option (Load Pairs)
  items : Option (List (Option (Load Pairs)))
  /-- The text a node has where a scalar is asked for. -/
  text : Option String

/-- A key: a sequence becomes a tuple, and what cannot be one is refused. -/
def keyOf (v : Value) : Load Value :=
  let key : Value := match v with
    | .list items => .tuple items
    | v => v
  match key with
  | .set _ | .map _ => flawed .badKey
  | key =>
    match key.unkeyable with
    | some bad => .error (.unhashable bad.typeName)
    | none => .ok key

/-- The entries that a merge brings. -/
def mergedEntries (v : Built) : Load (List (Value × Value)) :=
  match v.pairs, v.items with
  | some pairs, _ => pairs.map (·.entries)
  | none, some items => do
    let parts ← items.mapM fun
      | some pairs => pairs.map (·.entries)
      | none => flawed .merge
    return parts.reverse.flatten
  | none, none => flawed .merge

/-- Sorts entries into merged ones and own ones. -/
def gatherPairs (merged own : List (Value × Value)) : List (Built × Built) → Load Pairs
  | [] => return ⟨merged ++ own, !merged.isEmpty⟩
  | (k, v) :: rest =>
    if k.tag == standardTag "merge" then
      if !merged.isEmpty then flawed .duplicateKey
      else do
        let entries ← mergedEntries v
        gatherPairs entries own rest
    else do
      let key ←
        if k.tag == standardTag "value" then pure (.text (k.text.getD "")) else k.value >>= keyOf
      gatherPairs merged (own ++ [(key, ← v.value)]) rest

/-- The entries of a mapping in order; without a merge no key may repeat. -/
def Pairs.toEntries (p : Pairs) : Load Entries :=
  if p.merged then return Entries.ofPairs p.entries
  else
    p.entries.foldlM (fun done (k, v) =>
      if Entries.contains done k then flawed .duplicateKey else return done ++ [(k, v)]) []

/-- A list of pairs, each written as a mapping with one entry. -/
def singlePairs (items : List (Option (Load Pairs))) : Load (List (Value × Value)) :=
  items.mapM fun
    | some pairs => do
      match (← pairs).entries with
      | [pair] => return pair
      | _ => flawed .content
    | none => flawed .content

def mappingValue (tag : String) (pairs : Load Pairs) (text : Option String) : Load Value :=
  if tag == standardTag "map" then do return .map (← (← pairs).toEntries)
  else if tag == standardTag "set" then do return .set (Entries.keys (← (← pairs).toEntries))
  else if tag == standardTag "str" then
    match text with
    | some s => return .text s
    | none => flawed .content
  else flawed .unknownTag

def sequenceValue (tag : String) (items : Load (List Value))
    (pairs : List (Option (Load Pairs))) : Load Value :=
  if tag == standardTag "seq" then do return .list (← items)
  else if tag == standardTag "omap" then do
    return .map (Entries.ofPairs (← singlePairs pairs))
  else if tag == standardTag "pairs" then do
    return .list ((← singlePairs pairs).map fun (k, v) => .tuple [k, v])
  else flawed .unknownTag

mutual

def build (old : Bool) : Node → Built
  | .scalar tag text =>
    { tag, value := scalarValue old tag text, pairs := none, items := none, text := some text }
  | .sequence tag items =>
    let built := buildItems old items
    let pairs := built.map (·.pairs)
    { tag
      value := sequenceValue tag (built.mapM (·.value)) pairs
      pairs := none
      items := some pairs
      text := none }
  | .mapping tag entries =>
    let built := buildEntries old entries
    let pairs := gatherPairs [] [] built
    let text := (built.find? (·.1.tag == standardTag "value")).bind (·.2.text)
    { tag, value := mappingValue tag pairs text, pairs := some pairs, items := none, text }

def buildItems (old : Bool) : List Node → List Built
  | [] => []
  | node :: nodes => build old node :: buildItems old nodes

def buildEntries (old : Bool) : List (Node × Node) → List (Built × Built)
  | [] => []
  | (k, v) :: rest => (build old k, build old v) :: buildEntries old rest

end

/-- The value of a document; a text without one stands for null. -/
def load (text : String) : Load Value := do
  match ← compose text with
  | (none, _) => return .null
  | (some node, old) => (build old node).value

end ImagePreload.Yaml
