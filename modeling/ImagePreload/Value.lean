import ImagePreload.Number
import ImagePreload.Calendar

/-!
# Values

The data that configurations, manifests and template variables consist of. A mapping keeps its
entries in the order in which they came, and any value may be a key.
-/

namespace ImagePreload

inductive Value where
  | null
  | bool (b : Bool)
  | int (n : Int)
  | float (x : Float)
  | text (s : String)
  | bytes (data : List UInt8)
  | date (d : Date)
  | time (t : DateTime)
  | list (items : List Value)
  | tuple (items : List Value)
  | set (items : List Value)
  | map (entries : List (Value × Value))

namespace Value

instance : Inhabited Value := ⟨.null⟩

/-- The number a value stands for; a truth value counts as zero or one. -/
def number? : Value → Option Number
  | .bool b => some (.int (if b then 1 else 0))
  | .int n => some (.int n)
  | .float x => some (.float x)
  | _ => none

mutual

/-- Equality of values: numbers by value, whatever their kind, sequences item by item, mappings and
sets without regard to order. -/
def same : Value → Value → Bool
  | .null, .null => true
  | .text s, .text t => s == t
  | .bytes a, .bytes b => a == b
  | .date a, .date b => a == b
  | .time a, .time b => a == b
  | .list as, .list bs => sameItems as bs
  | .tuple as, .tuple bs => sameItems as bs
  | .set as, .set bs => as.length == bs.length && allIn as bs
  | .map as, .map bs => as.length == bs.length && entriesIn as bs
  | a, b =>
    match a.number?, b.number? with
    | some m, some n => m.equal n
    | _, _ => false

def sameItems : List Value → List Value → Bool
  | [], [] => true
  | a :: as, b :: bs => same a b && sameItems as bs
  | _, _ => false

def allIn : List Value → List Value → Bool
  | [], _ => true
  | a :: as, bs => bs.any (same a) && allIn as bs

def entriesIn : List (Value × Value) → List (Value × Value) → Bool
  | [], _ => true
  | (k, v) :: as, bs => bs.any (fun (k', v') => same k k' && same v v') && entriesIn as bs

end

instance : BEq Value := ⟨same⟩

mutual

/-- Whether a value may be a key of a mapping: it holds nothing that could change. -/
def isKey : Value → Bool
  | .list _ | .set _ | .map _ => false
  | .tuple items => areKeys items
  | _ => true

def areKeys : List Value → Bool
  | [] => true
  | v :: vs => isKey v && areKeys vs

end

/-- The first part of a value that keeps it from being a key. -/
def unkeyable : Value → Option Value
  | .tuple items => items.findSome? fun
    | .tuple _ => none
    | v => if v.isKey then none else some v
  | v => if v.isKey then none else some v

/-- A value counts as true unless it is null, false, zero or empty. -/
def truthy : Value → Bool
  | .null => false
  | .bool b => b
  | .int n => n != 0
  | .float x => !(x == 0.0)
  | .text s => !s.isEmpty
  | .bytes data => !data.isEmpty
  | .date _ | .time _ => true
  | .list items | .tuple items | .set items => !items.isEmpty
  | .map entries => !entries.isEmpty

/-- The name of a value's type in messages. -/
def typeName : Value → String
  | .null => "NoneType"
  | .bool _ => "bool"
  | .int _ => "int"
  | .float _ => "float"
  | .text _ => "str"
  | .bytes _ => "bytes"
  | .date _ => "datetime.date"
  | .time _ => "datetime.datetime"
  | .list _ => "list"
  | .tuple _ => "tuple"
  | .set _ => "set"
  | .map _ => "dict"

end Value

/-- The entries of a mapping in order. -/
abbrev Entries := List (Value × Value)

namespace Entries

def get? (key : Value) : Entries → Option Value
  | [] => none
  | (k, v) :: rest => if k.same key then some v else get? key rest

def contains (entries : Entries) (key : Value) : Bool := (entries.get? key).isSome

/-- Replaces the value of a key where it stands, or adds the entry at the end. -/
def insert (key value : Value) : Entries → Entries
  | [] => [(key, value)]
  | (k, v) :: rest => if k.same key then (k, value) :: rest else (k, v) :: insert key value rest

def erase (key : Value) : Entries → Entries
  | [] => []
  | (k, v) :: rest => if k.same key then rest else (k, v) :: erase key rest

def keys (entries : Entries) : List Value := entries.map (·.1)

/-- Entries of pairs in order, a later pair replacing an earlier one of the same key. -/
def ofPairs (pairs : List (Value × Value)) : Entries :=
  pairs.foldl (fun entries (k, v) => Entries.insert k v entries) []

end Entries

/-- The value of a text key in a mapping. -/
def Value.field? (key : String) : Value → Option Value
  | .map entries => Entries.get? (.text key) entries
  | _ => none

end ImagePreload
