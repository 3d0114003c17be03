import ImagePreload.Template.Method.Collection
import ImagePreload.Template.Method.Text

/-!
# Attributes and items

A name behind a point is looked up among what the object has by its nature, and only then among its
items; an index in brackets the other way round. What is found nowhere is missing.
-/

namespace ImagePreload.Template

open Eval

namespace Datum

/-- The functions an object has. -/
def methods : Datum → List (String × Counting)
  | .text .. => TextMethod.all
  | .list _ => ListMethod.all
  | .tuple _ | .group .. => TupleMethod.all
  | .map _ => MapMethod.all
  | .bool _ | .int _ => NumberMethod.ofInt
  | .float _ => NumberMethod.ofFloat
  | .cycler _ => [("next", .never), ("reset", .never)]
  | .loop _ => [("cycle", .free), ("changed", .free)]
  | .date _ | .time _ => [("isoformat", .never), ("weekday", .never), ("isoweekday", .never)]
  | _ => []

/-- Names every object has. -/
def commonNames : List String :=
  ["__class__", "__delattr__", "__dir__", "__doc__", "__eq__", "__format__", "__ge__",
    "__getattribute__", "__getstate__", "__gt__", "__hash__", "__init__", "__init_subclass__",
    "__le__", "__lt__", "__ne__", "__new__", "__reduce__", "__reduce_ex__", "__repr__",
    "__setattr__", "__sizeof__", "__str__", "__subclasshook__"]

end Datum

/-- Whether a name is set apart by underscores on both sides. -/
def isSpecialName (name : String) : Bool := name.startsWith "__" && name.endsWith "__"

private def timeField? (d : Date) (name : String) : Option Datum :=
  match name with
  | "year" => some (.int d.year)
  | "month" => some (.int d.month)
  | "day" => some (.int d.day)
  | _ => none

/-- What an attribute of a loop stands for. -/
def loopAttribute? (policy : MissingKeyPolicy) (l : LoopState) (name : String) : Option Datum :=
  let i := l.index
  let n := l.items.length
  match name with
  | "index" => some (.int (i + 1))
  | "index0" => some (.int i)
  | "revindex" => some (.int (n - i : Nat))
  | "revindex0" => some (.int (n - i - 1 : Nat))
  | "first" => some (.bool (i == 0))
  | "last" => some (.bool (i + 1 == n))
  | "length" => some (.int n)
  | "depth" => some (.int l.depth)
  | "depth0" => some (.int (l.depth - 1 : Nat))
  | "previtem" =>
    some (if i == 0 then .undefined policy.missing "there is no previous item"
      else l.items.getD (i - 1) .null)
  | "nextitem" =>
    some ((l.items[i + 1]?).getD (.undefined policy.missing "there is no next item"))
  | _ => none

/-- What an object has under a name by its nature. -/
def attribute? (policy : MissingKeyPolicy) (d : Datum) (name : String) : Eval (Option Datum) := do
  match d with
  | .undefined kind message =>
    if isSpecialName name then return if name == "__class__" then some (.type d.typeName) else none
    else if kind == .chainable then return some d
    else fail (.undefined message)
  | d =>
    if (d.methods.lookup name).isSome then return some (.method d name)
    else if name == "__class__" then return some (.type d.typeName)
    else if Datum.commonNames.contains name then return some (.method d name)
    else
      match d with
      | .bool b =>
        match name with
        | "real" | "numerator" => return some (.int (if b then 1 else 0))
        | "imag" => return some (.int 0)
        | "denominator" => return some (.int 1)
        | _ => return none
      | .int n =>
        match name with
        | "real" | "numerator" => return some (.int n)
        | "imag" => return some (.int 0)
        | "denominator" => return some (.int 1)
        | _ => return none
      | .float x =>
        match name with
        | "real" => return some (.float x)
        | "imag" => return some (.float 0.0)
        | _ => return none
      | .range start stop step =>
        match name with
        | "start" => return some (.int start)
        | "stop" => return some (.int stop)
        | "step" => return some (.int step)
        | _ => return none
      | .date d => return timeField? d name
      | .time t =>
        match name with
        | "hour" => return some (.int t.hour)
        | "minute" => return some (.int t.minute)
        | "second" => return some (.int t.second)
        | "microsecond" => return some (.int t.microsecond)
        | _ => return timeField? t.date name
      | .group key items =>
        match name with
        | "grouper" => return some key
        | "list" => return some items
        | _ => return none
      | .loop ref =>
        match ← cell ref with
        | .loop l => return loopAttribute? policy l name
        | _ => return none
      | .cycler ref =>
        match ← cell ref with
        | .cycler items position => return if name == "current" then items[position]? else none
        | _ => return none
      | .fields ref =>
        match ← cell ref with
        | .fields entries => return entries.lookup name
        | _ => return none
      | .closure ref =>
        match ← cell ref with
        | .closure { routine := .definition own parameters _, .. } =>
          match name with
          | "name" => return some (.plain own)
          | "arguments" => return some (.tuple (parameters.map fun (p, _) => .plain p))
          | _ => return none
        | _ => return none
      | .block own =>
        if name == "super" then
          return some (.undefined policy.missing
            ("there is no parent block called " ++ Text.quoted own ++ "."))
        else return none
      | _ => return none

/-- What an object holds under an index, if it holds anything. -/
def item? (blocks : List String) (d index : Datum) : Eval (Option Datum) := do
  let at? (items : List Datum) : Eval (Option Datum) :=
    match index with
    | .int n => return (Slice.position? items.length n).bind (items[·]?)
    | .bool b => return items[if b then 1 else 0]?
    | _ => return none
  match d with
  | .undefined .chainable _ => return some d
  | .undefined _ message => fail (.undefined message)
  | .text s safe => at? (s.toList.map fun c => .text (.singleton c) safe)
  | .bytes data => at? (data.map fun b => .int b.toNat)
  | .tuple items => at? items
  | .group key items => at? [key, items]
  | .range start stop step => at? (Datum.rangeItems start stop step)
  | .list ref => at? (← listItems ref)
  | .map ref =>
    match index with
    | .list _ | .map _ | .set _ => return none
    | .undefined .strict message => fail (.undefined message)
    | index => findEntry index (← mapEntries ref)
  | .blocks =>
    match index with
    | .text s _ => return if blocks.contains s then some (.block s) else none
    | _ => return none
  | _ => return none

/-- What a name behind a point stands for. -/
def getAttribute (s : Setting) (d : Datum) (name : String) : Eval Datum := do
  match ← attribute? s.policy d name with
  | some found => return found
  | none =>
    match ← item? (s.blocks.map (·.1)) d (.plain name) with
    | some found => return found
    | none => return s.policy.unknownAttribute d name

/-- What an index in brackets stands for. -/
def getItem (s : Setting) (d index : Datum) : Eval Datum := do
  match ← item? (s.blocks.map (·.1)) d index with
  | some found => return found
  | none =>
    match index with
    | .text name _ =>
      match ← attribute? s.policy d name with
      | some found => return found
      | none => return s.policy.unknownAttribute d name
    | index => return s.policy.unknownItem d (← quoted index)

private def boundary (d : Datum) : Eval (Option Int) :=
  match d with
  | .null => return none
  | .int n => return some n
  | .bool b => return some (if b then 1 else 0)
  | _ => fail (.type "slice indices must be integers or None or have an __index__ method")

/-- The part of a sequence between two positions. -/
def getSlice (d start stop step : Datum) : Eval Datum := do
  let cut {α : Type} (items : List α) : Eval (List α) := do
    let step ← boundary step
    let start ← boundary start
    let stop ← boundary stop
    if step == some 0 then fail (.value "slice step cannot be zero")
    else return Slice.part items start stop (step.getD 1)
  match d with
  | .undefined .chainable _ => return d
  | .undefined _ message => fail (.undefined message)
  | .text s safe => return .text (.ofList (← cut s.toList)) safe
  | .bytes data => return .bytes (← cut data)
  | .tuple items => return .tuple (← cut items)
  | .group key items => return .tuple (← cut [key, items])
  | .list ref => do newList (← cut (← listItems ref))
  | .range first last by' =>
    match Slice.positions (Datum.rangeLength first last by') (← boundary start) (← boundary stop)
        ((← boundary step).getD 1) with
    | [] => return .range first first by'
    | positions =>
      let at' (i : Nat) : Int := first + i * by'
      let step := (← boundary step).getD 1 * by'
      return .range (at' (positions.headD 0)) (at' (positions.getLastD 0) + step) step
  | .map _ => fail (.type "unhashable type: 'slice'")
  | d => fail (.type (Text.quoted d.typeName ++ " object is not subscriptable"))

private def noNames (name : String) (given : Given) : Eval Unit :=
  if given.named.isEmpty then return ()
  else fail (.type (name ++ "() takes no keyword arguments"))

/-- What a sequence is called when a position lies outside of it. -/
private def outside : Datum → String
  | .text .. => "string index out of range"
  | .range .. => "range object index out of range"
  | .bytes _ => "index out of range"
  | d => d.typeName ++ " index out of range"

/-- A step from an object in the field of a format. -/
private def followStep (policy : MissingKeyPolicy) (d : Datum) (step : Format.FieldStep) :
    Eval Datum := do
  let (index, found) ←
    match step with
    | .attribute name => pure (Datum.null, ← attribute? policy d name)
    | .key key => pure (.plain key, ← item? [] d (.plain key))
    | .position i => pure (.int i, ← item? [] d (.int i))
  match found, step, d with
  | some found, _, _ => return found
  | none, .attribute name, d => fail (.attribute d.typeName name)
  | none, .key key, .map _ => fail (.key key)
  | none, .position i, .map _ => fail (.key (toString i))
  | none, .position _, .text .. | none, .position _, .list _ | none, .position _, .tuple _
  | none, .position _, .range .. | none, .position _, .bytes _ => fail (.index (outside d))
  | none, .key _, .text .. =>
    fail (.type ("string indices must be integers, not " ++ Text.quoted index.typeName))
  | none, .key _, .bytes _ =>
    fail (.type ("byte indices must be integers or slices, not " ++ index.typeName))
  | none, .key _, .list _ | none, .key _, .tuple _ | none, .key _, .range .. =>
    fail (.type (d.typeName ++ " indices must be integers or slices, not " ++ index.typeName))
  | none, _, d => fail (.type (Text.quoted d.typeName ++ " object is not subscriptable"))

private def formatText (policy : MissingKeyPolicy) (s : String) (safe : Bool) (given : Given) :
    Eval Datum := do
  let fields : TextMethod.Fields :=
    { positional := some given.positional
      named := fun name =>
        match given.named.lookup name with
        | some d => return d
        | none => fail (.key name)
      follow := followStep policy }
  let (out, _) ← TextMethod.fillFields fields 2 .open s.toList
  return .text out safe

private def formatMap (policy : MissingKeyPolicy) (s : String) (safe : Bool) (d : Datum) :
    Eval Datum := do
  let fields : TextMethod.Fields :=
    { positional := none
      named := fun name => followStep policy d (.key name)
      follow := followStep policy }
  let (out, _) ← TextMethod.fillFields fields 2 .open s.toList
  return .text out safe

private def callLoop (ref : Nat) (name : String) (args : List Datum) : Eval Datum := do
  match ← cell ref with
  | .loop l =>
    match name with
    | "cycle" =>
      if args.isEmpty then fail (.type "no items for cycling given")
      else return args.getD (l.index % args.length) .null
    | _ =>
      let changed ← match l.last with
        | none => pure true
        | some last => pure (!(← equal (.tuple last) (.tuple args)))
      store ref (.loop { l with last := some args })
      return .bool changed
  | _ => return .null

private def callCycler (ref : Nat) (name : String) : Eval Datum := do
  match ← cell ref with
  | .cycler items position =>
    if name == "next" then
      store ref (.cycler items ((position + 1) % items.length))
      return items.getD position .null
    else
      store ref (.cycler items 0)
      return .null
  | _ => return .null

private def callTime (d : Date) (shown : String) (name : String) : Eval Datum :=
  match name with
  | "weekday" => return .int (Calendar.weekday d)
  | "isoweekday" => return .int (Calendar.weekday d + 1)
  | _ => return .plain shown

/-- The result of a function that an object has. -/
def callMethod (policy : MissingKeyPolicy) (d : Datum) (name : String) (given : Given) :
    Eval Datum := do
  let owner :=
    match d with
    | .bool _ => "int"
    | .group .. => "tuple"
    | d => d.typeName
  let counting := (d.methods.lookup name).getD .free
  let args ← ofResult (counting.arguments owner name given)
  match d with
  | .text s safe =>
    match name with
    | "format" => formatText policy s safe given
    | "format_map" => formatMap policy s safe (args.headD .null)
    | name => TextMethod.apply s safe name args
  | .list ref => ListMethod.apply ref name args
  | .map ref => MapMethod.apply ref name args given.named
  | .tuple items => TupleMethod.apply items name args
  | .group key items => TupleMethod.apply [key, items] name args
  | .loop ref => do
    noNames name given
    callLoop ref name args
  | .cycler ref => callCycler ref name
  | .date d => callTime d (Calendar.dateText d) name
  | .time t => callTime t.date (Calendar.dateText t.date ++ "T" ++ Calendar.clockText t) name
  | d =>
    match d.number? with
    | some x => NumberMethod.apply x name args
    | none => fail .notImplemented

end ImagePreload.Template
