import ImagePreload.Template.Arguments
import ImagePreload.Template.Slice
import ImagePreload.Value.Pairs

/-!
# What lists, mappings and numbers can do

The functions that lists, tuples, mappings and numbers have. Those of lists and mappings may change
them in place.
-/

namespace ImagePreload.Template

open Eval

/-- The entries of a mapping, or of something that yields pairs. -/
def Eval.entriesOf (d : Datum) : Eval (List (Datum × Datum)) := do
  match d with
  | .map ref => mapEntries ref
  | d =>
    let items ← elements d
    let pairs ← items.zipIdx.mapM fun (item, i) => do
      match ← elements? item with
      | none => fail (.pairs (.notASequence i))
      | some [k, v] => return (k, v)
      | some parts => fail (.pairs (.wrongLength i parts.length))
    entriesOfPairs pairs

private def positionOf (d : Datum) : Nat → List Datum → Eval (Option Nat)
  | _, [] => return none
  | i, x :: xs => do if ← equal x d then return some i else positionOf d (i + 1) xs

private def countOf (d : Datum) (items : List Datum) : Eval Datum := do
  return .int (← items.filterM (equal · d)).length

/-- The position of a datum between two boundaries. -/
private def indexOf (items : List Datum) (args : List Datum) (missing : String → String) :
    Eval Datum := do
  let d := args.headD .null
  let n := items.length
  let boundary (i : Nat) (default : Int) : Eval Int :=
    match args[i]? with
    | none => return default
    | some d => return Slice.clamp n 0 n (← index d)
  let start ← boundary 1 0
  let stop ← boundary 2 n
  match ← positionOf d start.toNat ((items.drop start.toNat).take (stop - start).toNat) with
  | some i => return .int i
  | none => fail (.value (missing (← quoted d)))

namespace ListMethod

def all : List (String × Counting) :=
  [("append", .one), ("clear", .never), ("copy", .never), ("count", .one), ("extend", .one),
    ("index", .expected 1 3), ("insert", .expected 2 2), ("pop", .expected 0 1), ("remove", .one),
    ("reverse", .never), ("sort", .named ["key", "reverse"])]

def apply (ref : Nat) (name : String) (args : List Datum) : Eval Datum := do
  let items ← listItems ref
  let put (items : List Datum) : Eval Datum := do
    store ref (.list items)
    return .null
  let first := args.headD .null
  match name with
  | "append" => put (items ++ [first])
  | "clear" => put []
  | "copy" => newList items
  | "count" => countOf first items
  | "extend" => put (items ++ (← elements first))
  | "index" => indexOf items args fun shown => shown ++ " is not in list"
  | "insert" =>
    let i ← index first
    let i := (Slice.clamp items.length 0 items.length i).toNat
    put (items.take i ++ args.getD 1 .null :: items.drop i)
  | "pop" =>
    let i ← if args.isEmpty then pure (-1) else index first
    if items.isEmpty then fail (.index "pop from empty list")
    else
      match Slice.position? items.length i with
      | none => fail (.index "pop index out of range")
      | some i =>
        discard (put (items.eraseIdx i))
        return items.getD i .null
  | "remove" =>
    match ← positionOf first 0 items with
    | some i => put (items.eraseIdx i)
    | none => fail (.value "list.remove(x): x not in list")
  | "reverse" => put items.reverse
  | "sort" =>
    match first with
    | .null =>
      let backwards ← match args.getD 1 .null with
        | .null => pure false
        | d => pure ((← index d) != 0)
      let sorted ← sortWith less (if backwards then items.reverse else items)
      put (if backwards then sorted.reverse else sorted)
    | d => fail (.notCallable d.typeName)
  | _ => fail (.attribute "list" name)

end ListMethod

namespace TupleMethod

def all : List (String × Counting) := [("count", .one), ("index", .expected 1 3)]

def apply (items : List Datum) (name : String) (args : List Datum) : Eval Datum :=
  match name with
  | "count" => countOf (args.headD .null) items
  | "index" => indexOf items args fun _ => "tuple.index(x): x not in tuple"
  | _ => fail (.attribute "tuple" name)

end TupleMethod

namespace MapMethod

def all : List (String × Counting) :=
  [("clear", .never), ("copy", .never), ("fromkeys", .expected 1 2), ("get", .expected 1 2),
    ("items", .never), ("keys", .never), ("pop", .expected 1 2), ("popitem", .never),
    ("setdefault", .expected 1 2), ("update", .free), ("values", .never)]

private def missingKey (key : Datum) : Eval Datum := do
  match key with
  | .text s _ => fail (.key s)
  | key => fail (.key (← quoted key))

def apply (ref : Nat) (name : String) (args : List Datum) (named : List (String × Datum)) :
    Eval Datum := do
  let entries ← mapEntries ref
  let put (entries : List (Datum × Datum)) : Eval Unit := store ref (.map entries)
  let first := args.headD .null
  let second := args.getD 1 .null
  match name with
  | "clear" =>
    put []
    return .null
  | "copy" => newMap entries
  | "fromkeys" =>
    newMap (← entriesOfPairs ((← elements first).map (·, second)))
  | "get" =>
    checkKey first
    return (← findEntry first entries).getD second
  | "items" => return .view .items ref
  | "keys" => return .view .keys ref
  | "values" => return .view .values ref
  | "pop" =>
    if entries.isEmpty then
      if args.length > 1 then return second else missingKey first
    else
      checkKey first
      match ← findEntry first entries with
      | some d =>
        put (← dropEntry first entries)
        return d
      | none => if args.length > 1 then return second else missingKey first
  | "popitem" =>
    match entries.getLast? with
    | some (k, v) =>
      put entries.dropLast
      return .tuple [k, v]
    | none => fail (.key "popitem(): dictionary is empty")
  | "setdefault" =>
    checkKey first
    match ← findEntry first entries with
    | some d => return d
    | none =>
      put (entries ++ [(first, second)])
      return second
  | "update" =>
    if args.length > 1 then
      fail (.type ("update expected at most 1 argument, got " ++ toString args.length))
    else
      let more ← match args with
        | [d] => entriesOf d
        | _ => pure []
      let more := more ++ named.map fun (k, v) => (.plain k, v)
      put (← more.foldlM (fun entries (k, v) => putEntry k v entries) entries)
      return .null
  | _ => fail (.attribute "dict" name)

end MapMethod

namespace NumberMethod

def ofInt : List (String × Counting) :=
  [("as_integer_ratio", .never), ("bit_count", .never), ("bit_length", .never),
    ("conjugate", .never), ("to_bytes", .named ["length", "byteorder", "signed"])]

def ofFloat : List (String × Counting) :=
  [("as_integer_ratio", .never), ("conjugate", .never), ("is_integer", .never)]

/-- The digits of a number in base two. -/
private def bits (n : Nat) : List Char := if n == 0 then [] else Nat.toDigits 2 n

private def byteDigits : Nat → Nat → List UInt8
  | 0, _ => []
  | count + 1, n => byteDigits count (n / 256) ++ [UInt8.ofNat (n % 256)]

private def toBytes (n : Int) (args : List Datum) : Eval Datum := do
  let length ← match args.headD .null with
    | .null => pure 1
    | d => index d
  let data := byteDigits length.toNat n.toNat
  if n < 0 then fail (.overflow "can't convert negative int to unsigned")
  else if n ≥ Nat.pow 256 length.toNat then fail (.overflow "int too big to convert")
  else
    match args.getD 1 .null with
    | .null => return .bytes data
    | .text "big" _ => return .bytes data
    | .text "little" _ => return .bytes data.reverse
    | _ => fail (.value "byteorder must be either 'little' or 'big'")

def apply (x : Number) (name : String) (args : List Datum) : Eval Datum := do
  match name, x with
  | "conjugate", x => return .ofNumber x
  | "bit_length", .int n => return .int (bits n.natAbs).length
  | "bit_count", .int n => return .int ((bits n.natAbs).count '1')
  | "to_bytes", .int n => toBytes n args
  | "as_integer_ratio", .int n => return .tuple [.int n, .int 1]
  | "as_integer_ratio", .float x =>
    match Number.ratio? (.float x) with
    | some (n, d) =>
      let g := Nat.gcd n.natAbs d
      return .tuple [.int (n / g), .int (d / g : Nat)]
    | none => discard (liftArithmetic (Number.truncate x)); return .null
  | "is_integer", .float x => return .bool (x.isFinite && x.floor == x)
  | name, x =>
    fail (.attribute (match x with | .int _ => "int" | .float _ => "float") name)

end NumberMethod

end ImagePreload.Template
