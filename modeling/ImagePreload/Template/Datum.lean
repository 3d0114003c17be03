import ImagePreload.Entropy
import ImagePreload.Template.Ast
import ImagePreload.Template.Error
import ImagePreload.Value.Display

/-!
# What the names of a template stand for

A datum is a value as a template sees it. Lists and mappings may be changed in place and shared, so
they live in cells and a datum only refers to one; the same goes for scopes and for everything else
that remembers something between two uses.

A missing value is a datum too. What may be done with it depends on the policy for missing keys.
-/

namespace ImagePreload.Template

/-- What a reference to a missing key yields. -/
inductive MissingKeyPolicy where
  /-- An empty value, whose own keys are missing in the same way. -/
  | zero
  /-- A value that fails as soon as it is used. -/
  | error
  deriving DecidableEq, Repr

namespace MissingKeyPolicy

def name : MissingKeyPolicy → String
  | .zero => "zero"
  | .error => "error"

def ofName? (s : String) : Option MissingKeyPolicy := [zero, error].find? (·.name == s)

end MissingKeyPolicy

inductive Builtin where
  | env
  | rand
  | add
  | multiply
  | range
  | dict
  | lipsum
  | cycler
  | joiner
  | fields
  deriving DecidableEq, Repr

/-- How a missing value behaves. -/
inductive Missing where
  /-- Its text is empty; its attributes fail. -/
  | plain
  /-- Its text is empty, and so are its attributes. -/
  | chainable
  /-- Every use fails. -/
  | strict
  deriving DecidableEq, Repr

inductive ViewPart where
  | keys
  | values
  | items
  deriving DecidableEq, Repr

inductive Datum where
  | null
  | bool (b : Bool)
  | int (n : Int)
  | float (x : Float)
  /-- A text; a safe one is not escaped when it becomes part of markup. -/
  | text (s : String) (safe : Bool)
  | bytes (data : List UInt8)
  | date (d : Date)
  | time (t : DateTime)
  | undefined (kind : Missing) (message : String)
  | tuple (items : List Datum)
  /-- Items that have something in common, with what that is. -/
  | group (key items : Datum)
  | set (items : List Datum)
  | range (start stop step : Int)
  | list (ref : Nat)
  | map (ref : Nat)
  | view (part : ViewPart) (ref : Nat)
  /-- Items that can be gone through once. -/
  | stream (ref : Nat)
  | builtin (f : Builtin)
  | method (object : Datum) (name : String)
  | closure (ref : Nat)
  | loop (ref : Nat)
  | cycler (ref : Nat)
  | joiner (ref : Nat)
  | fields (ref : Nat)
  /-- The blocks of the template, by name. -/
  | blocks
  | block (name : String)
  /-- The type of another datum. -/
  | type (name : String)

instance : Inhabited Datum := ⟨.null⟩

def Datum.plain (s : String) : Datum := .text s false

/-- A function that a template defines, or the body of a loop that calls itself. -/
inductive Routine where
  | definition (name : String) (parameters : Parameters) (body : List Stmt)
  | loop (target : Target) (test : Option Expr) (body otherwise : List Stmt)

structure Closure where
  routine : Routine
  scope : Nat

/-- Where a loop stands. -/
structure LoopState where
  items : List Datum
  index : Nat
  depth : Nat
  /-- The values that were last looked at for a change. -/
  last : Option (List Datum)
  /-- The loop's body, if it may call itself. -/
  again : Option Nat

structure Scope where
  vars : List (String × Datum)
  outer : Option Nat

inductive Cell where
  | list (items : List Datum)
  | map (entries : List (Datum × Datum))
  | stream (items : List Datum)
  | loop (state : LoopState)
  | cycler (items : List Datum) (position : Nat)
  | joiner (separator : Datum) (used : Bool)
  | fields (entries : List (String × Datum))
  | scope (scope : Scope)
  | closure (closure : Closure)

instance : Inhabited Cell := ⟨.list []⟩

/-- The cells and the randomness of a run. -/
structure Machine where
  cells : Array Cell
  entropy : Entropy
  /-- Whether texts that are written are escaped. -/
  escaping : Bool

abbrev Eval := StateT Machine (Except TemplateError)

/-- What does not change during a run. -/
structure Setting where
  policy : MissingKeyPolicy
  environment : List (String × String)
  blocks : List (String × List Stmt)

namespace Eval

def fail {α : Type} (e : TemplateError) : Eval α := fun _ => .error e

def ofResult {α : Type} (r : Except TemplateError α) : Eval α := fun m => r.map fun a => (a, m)

/-- A new cell. -/
def alloc (cell : Cell) : Eval Nat := fun m =>
  .ok (m.cells.size, { m with cells := m.cells.push cell })

def cell (ref : Nat) : Eval Cell := fun m => .ok (m.cells.getD ref default, m)

def store (ref : Nat) (cell : Cell) : Eval Unit := fun m =>
  .ok ((), { m with cells := m.cells.setIfInBounds ref cell })

def newList (items : List Datum) : Eval Datum := Datum.list <$> alloc (.list items)

def newMap (entries : List (Datum × Datum)) : Eval Datum := Datum.map <$> alloc (.map entries)

def newStream (items : List Datum) : Eval Datum := Datum.stream <$> alloc (.stream items)

def listItems (ref : Nat) : Eval (List Datum) := do
  match ← cell ref with
  | .list items => return items
  | _ => return []

def mapEntries (ref : Nat) : Eval (List (Datum × Datum)) := do
  match ← cell ref with
  | .map entries => return entries
  | _ => return []

/-- The items of a stream, which is empty from then on. -/
def drain (ref : Nat) : Eval (List Datum) := do
  match ← cell ref with
  | .stream items =>
    store ref (.stream [])
    return items
  | _ => return []

def random (bound : Nat) : Eval Nat := fun m =>
  let (n, entropy) := m.entropy.draw bound
  .ok (n, { m with entropy })

end Eval

/-! ## Values as data -/

mutual

def Datum.ofValue : Value → Eval Datum
  | .null => return .null
  | .bool b => return .bool b
  | .int n => return .int n
  | .float x => return .float x
  | .text s => return .plain s
  | .bytes data => return .bytes data
  | .date d => return .date d
  | .time t => return .time t
  | .list items => do Eval.newList (← Datum.ofValues items)
  | .tuple items => return .tuple (← Datum.ofValues items)
  | .set items => return .set (← Datum.ofValues items)
  | .map entries => do Eval.newMap (← Datum.ofEntries entries)

def Datum.ofValues : List Value → Eval (List Datum)
  | [] => return []
  | v :: vs => do
    let d ← Datum.ofValue v
    return d :: (← Datum.ofValues vs)

def Datum.ofEntries : List (Value × Value) → Eval (List (Datum × Datum))
  | [] => return []
  | (k, v) :: rest => do
    let k ← Datum.ofValue k
    let v ← Datum.ofValue v
    return (k, v) :: (← Datum.ofEntries rest)

end

namespace Builtin

def name : Builtin → String
  | .env => "env"
  | .rand => "rand"
  | .add => "add"
  | .multiply => "multiply"
  | .range => "range"
  | .dict => "dict"
  | .lipsum => "lipsum"
  | .cycler => "cycler"
  | .joiner => "joiner"
  | .fields => "namespace"

def all : List Builtin :=
  [.env, .rand, .add, .multiply, .range, .dict, .lipsum, .cycler, .joiner, .fields]

/-- The name of a function in messages about its arguments. -/
def signatureName : Builtin → String
  | .env => "_env"
  | .rand => "_rand"
  | .add => "_add"
  | .multiply => "_multiply"
  | .lipsum => "generate_lorem_ipsum"
  | .cycler => "Cycler.__init__"
  | .joiner => "Joiner.__init__"
  | .fields => "Namespace.__init__"
  | f => f.name

end Builtin

namespace Datum

/-- The name of a datum's type in messages. -/
def typeName : Datum → String
  | .null => "NoneType"
  | .bool _ => "bool"
  | .int _ => "int"
  | .float _ => "float"
  | .text _ safe => if safe then "Markup" else "str"
  | .bytes _ => "bytes"
  | .date _ => "datetime.date"
  | .time _ => "datetime.datetime"
  | .undefined kind _ =>
    match kind with
    | .plain => "Undefined"
    | .chainable => "ChainableUndefined"
    | .strict => "StrictUndefined"
  | .tuple _ => "tuple"
  | .group .. => "_GroupTuple"
  | .set _ => "set"
  | .range .. => "range"
  | .list _ => "list"
  | .map _ => "dict"
  | .view .keys _ => "dict_keys"
  | .view .values _ => "dict_values"
  | .view .items _ => "dict_items"
  | .stream _ => "generator"
  | .builtin f =>
    match f with
    | .range | .dict | .cycler | .joiner | .fields => "type"
    | _ => "function"
  | .method .. => "builtin_function_or_method"
  | .closure _ => "Macro"
  | .loop _ => "LoopContext"
  | .cycler _ => "Cycler"
  | .joiner _ => "Joiner"
  | .fields _ => "Namespace"
  | .blocks => "TemplateReference"
  | .block _ => "BlockReference"
  | .type _ => "type"

/-- How the object is called that lacks an attribute. -/
def describe : Datum → String
  | .null => "None"
  | .text _ true => "markupsafe.Markup object"
  | .undefined kind message =>
    "jinja2.runtime." ++ (Datum.undefined kind message).typeName ++ " object"
  | .closure _ => "jinja2.runtime.Macro object"
  | .loop _ => "jinja2.runtime.LoopContext object"
  | .blocks => "jinja2.runtime.TemplateReference object"
  | .block _ => "jinja2.runtime.BlockReference object"
  | .cycler _ => "jinja2.utils.Cycler object"
  | .joiner _ => "jinja2.utils.Joiner object"
  | .fields _ => "jinja2.utils.Namespace object"
  | .group .. => "jinja2.filters._GroupTuple object"
  | d => d.typeName ++ " object"

def number? : Datum → Option Number
  | .bool b => some (.int (if b then 1 else 0))
  | .int n => some (.int n)
  | .float x => some (.float x)
  | _ => none

def ofNumber : Number → Datum
  | .int n => .int n
  | .float x => .float x

def text? : Datum → Option String
  | .text s _ => some s
  | _ => none

def isUndefined : Datum → Bool
  | .undefined .. => true
  | _ => false

/-- A datum that stands for itself and not for a cell. -/
def ofLiteral : Literal → Datum
  | .none => .null
  | .bool b => .bool b
  | .int n => .int n
  | .float x => .float x
  | .text s => .plain s

end Datum

namespace MissingKeyPolicy

def missing : MissingKeyPolicy → Missing
  | .zero => .chainable
  | .error => .strict

/-- The value of a name that stands for nothing. -/
def unknownName (p : MissingKeyPolicy) (name : String) : Datum :=
  .undefined p.missing (Text.quoted name ++ " is undefined")

/-- The value of an attribute that an object lacks. -/
def unknownAttribute (p : MissingKeyPolicy) (object : Datum) (name : String) : Datum :=
  .undefined p.missing (Text.quoted object.describe ++ " has no attribute " ++ Text.quoted name)

/-- The value of an item that an object lacks. -/
def unknownItem (p : MissingKeyPolicy) (object : Datum) (index : String) : Datum :=
  .undefined p.missing (object.describe ++ " has no element " ++ index)

end MissingKeyPolicy

end ImagePreload.Template
