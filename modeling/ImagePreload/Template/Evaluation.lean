import ImagePreload.Template.Function
import ImagePreload.Template.Mention

/-!
# Evaluation of a template

Expressions have a datum as their value, statements write a text. Both follow the tree; what a call
does is a parameter, so that only calls of functions that a template defines need a bound.

Names are looked up from the innermost scope outwards. A body opens a scope where it binds names of
its own; the branches of a condition do not.
-/

namespace ImagePreload.Template

open Eval

/-- Where something is evaluated. -/
structure Context where
  setting : Setting
  scope : Nat
  /-- What a filter at the head of a block is applied to, or what a loop was called with. -/
  captured : Datum
  /-- How deep a loop that starts here is inside itself. -/
  depth : Nat
  call : Datum → Given → Eval Datum

namespace Context

/-- What a name stands for in a scope or around it. A scope lies behind those around it. -/
def findName (cells : Array Cell) (name : String) : Nat → Nat → Option Datum
  | 0, _ => none
  | fuel + 1, ref =>
    match cells.getD ref default with
    | .scope { vars, outer } =>
      match vars.lookup name, outer with
      | some d, _ => some d
      | none, some outer => findName cells name fuel outer
      | none, none => none
    | _ => none

def lookup (c : Context) (name : String) : Eval Datum := fun m =>
  .ok ((findName m.cells name (c.scope + 1) c.scope).getD (c.setting.policy.unknownName name), m)

private def setVar (name : String) (d : Datum) : List (String × Datum) → List (String × Datum)
  | [] => [(name, d)]
  | (k, v) :: rest => if k == name then (name, d) :: rest else (k, v) :: setVar name d rest

/-- Binds a name in the innermost scope. -/
def bindName (c : Context) (name : String) (d : Datum) : Eval Unit := do
  match ← cell c.scope with
  | .scope s => store c.scope (.scope { s with vars := setVar name d s.vars })
  | _ => return ()

/-- A new scope inside another one. -/
def nested (c : Context) (vars : List (String × Datum)) : Eval Context := do
  return { c with scope := ← alloc (.scope ⟨vars, some c.scope⟩) }

end Context

/-- The items that several targets are bound to. -/
private def unpack (count : Nat) (d : Datum) : Eval (List Datum) := do
  match ← elements? d with
  | none => fail (.notUnpackable d.typeName)
  | some items =>
    if items.length < count then fail (.unpackTooFew count items.length)
    else if items.length > count then fail (.unpackTooMany count)
    else return items

mutual

def Context.assign (c : Context) : Target → Datum → Eval Unit
  | .name name, d => c.bindName name d
  | .tuple parts, d => do c.assignAll parts (← unpack parts.length d)
  | .field object name, d => do
    match ← c.lookup object with
    | .fields ref =>
      match ← cell ref with
      | .fields entries => store ref (.fields ((entries.filter (·.1 != name)) ++ [(name, d)]))
      | _ => return ()
    | _ => fail (.templateRuntime "cannot assign attribute on non-namespace object")

def Context.assignAll (c : Context) : List Target → List Datum → Eval Unit
  | t :: ts, d :: ds => do
    c.assign t d
    c.assignAll ts ds
  | _, _ => return ()

end

/-- The arguments behind a star. -/
private def spread (d : Option Datum) : Eval (List Datum) := do
  match d with
  | none => return []
  | some d =>
    match ← elements? d with
    | some items => return items
    | none =>
      fail (.type ("jinja2.runtime.Context.call() argument after * must be an iterable, not "
        ++ d.typeName))

/-- The arguments behind two stars. -/
private def spreadNamed (d : Option Datum) : Eval (List (String × Datum)) := do
  match d with
  | none => return []
  | some (.map ref) =>
    (← mapEntries ref).mapM fun (k, v) => do
      match k with
      | .text s _ => return (s, v)
      | _ => fail (.type "keywords must be strings")
  | some (.undefined _ message) => fail (.undefined message)
  | some d =>
    fail (.type ("jinja2.runtime.Context.call() argument after ** must be a mapping, not "
      ++ d.typeName))

/-- How often filters may name further filters. -/
def filterDepth : Nat := 100

mutual

def Context.expr (c : Context) : Expr → Eval Datum
  | .literal l => return .ofLiteral l
  | .name name => c.lookup name
  | .list items => do newList (← c.exprs items)
  | .tuple items => return .tuple (← c.exprs items)
  | .dict entries => do newMap (← entriesOfPairs (← c.pairs entries))
  | .unary op e => do unary op (← c.expr e)
  | .binary op a b => do
    let x ← c.expr a
    let y ← c.expr b
    binary op x y
  | .and a b => do
    let x ← c.expr a
    if ← truthy x then c.expr b else return x
  | .or a b => do
    let x ← c.expr a
    if ← truthy x then return x else c.expr b
  | .compare first rest => do c.comparison (← c.expr first) rest
  | .concat parts => do concat (← c.exprs parts)
  | .conditional test result otherwise => do
    if ← truthy (← c.expr test) then c.expr result
    else
      match ← c.option otherwise with
      | some d => return d
      | none =>
        return .undefined .plain ("the inline if-expression on line 1 evaluated to false and no "
          ++ "else section was defined.")
  | .attribute e name => do getAttribute c.setting (← c.expr e) name
  | .item e (.slice start stop step) => do
    let d ← c.expr e
    let start ← c.option start
    let stop ← c.option stop
    let step ← c.option step
    getSlice d (start.getD .null) (stop.getD .null) (step.getD .null)
  | .item e index => do
    let d ← c.expr e
    getItem c.setting d (← c.expr index)
  | .slice .. => return .null
  | .call e positional named more moreNamed => do
    let f ← c.expr e
    let positional ← c.exprs positional
    let named ← c.namedExprs named
    let more ← c.option more
    let moreNamed ← c.option moreNamed
    c.call f ⟨positional ++ (← spread more), named ++ (← spreadNamed moreNamed)⟩
  | .filter name e positional named more moreNamed => do
    let d ← c.expr e
    let positional ← c.exprs positional
    let named ← c.namedExprs named
    let more ← c.option more
    let moreNamed ← c.option moreNamed
    Filter.apply c.setting filterDepth name
      ⟨d :: positional ++ (← spread more), named ++ (← spreadNamed moreNamed)⟩
  | .test name e positional named more moreNamed => do
    let d ← c.expr e
    let positional ← c.exprs positional
    let named ← c.namedExprs named
    let more ← c.option more
    let moreNamed ← c.option moreNamed
    if Test.names.contains name then
      return .bool (← Test.apply Filter.names name
        ⟨d :: positional ++ (← spread more), named ++ (← spreadNamed moreNamed)⟩)
    else fail (.noSuchTest name)
  | .body => return c.captured

def Context.exprs (c : Context) : List Expr → Eval (List Datum)
  | [] => return []
  | e :: es => do
    let d ← c.expr e
    return d :: (← c.exprs es)

def Context.option (c : Context) : Option Expr → Eval (Option Datum)
  | none => return none
  | some e => do return some (← c.expr e)

def Context.pairs (c : Context) : List (Expr × Expr) → Eval (List (Datum × Datum))
  | [] => return []
  | (k, v) :: rest => do
    let key ← c.expr k
    let value ← c.expr v
    return (key, value) :: (← c.pairs rest)

def Context.namedExprs (c : Context) : List (String × Expr) → Eval (List (String × Datum))
  | [] => return []
  | (name, e) :: rest => do
    let d ← c.expr e
    return (name, d) :: (← c.namedExprs rest)

/-- A chain of comparisons, which ends at the first one that does not hold. -/
def Context.comparison (c : Context) (left : Datum) : List (CompareOp × Expr) → Eval Datum
  | [] => return .bool true
  | (op, e) :: rest => do
    let right ← c.expr e
    if ← compare op left right then c.comparison right rest else return .bool false

end

/-- A text that was written by a body, safe if what it consists of was escaped. -/
def Eval.written (s : String) : Eval Datum := do return .text s (← get).escaping

/-- What is written for a value. -/
def Eval.output (d : Datum) : Eval String := do
  if (← get).escaping then markup d else display d

/-- Runs something with texts escaped or not, and puts back how it was. -/
def Eval.withEscaping {α : Type} (mode : Bool) (e : Eval α) : Eval α := do
  let before := (← get).escaping
  modify fun m => { m with escaping := mode }
  let r ← e
  modify fun m => { m with escaping := before }
  return r

/-- The scope at the top of a template, which blocks see. -/
def topScope : Nat := 2

/-- The items of a loop that pass its test. -/
def Context.passing (c : Context) (target : Target) (test : Option Expr) (items : List Datum) :
    Eval (List Datum) :=
  match test with
  | none => return items
  | some test => items.filterM fun d => do
    let inner ← c.nested []
    inner.assign target d
    truthy (← inner.expr test)

mutual

def Context.stmt (c : Context) : Stmt → Eval String
  | .text s => return s
  | .output e => do output (← c.expr e)
  | .cond branches otherwise => do
    match ← c.branches branches with
    | some s => return s
    | none => c.stmts otherwise
  | .loop target items test recursive body otherwise => do
    let again ←
      if recursive then some <$> alloc (.closure ⟨.loop target test body otherwise, c.scope⟩)
      else pure none
    let items ← c.passing target test (← elements (← c.expr items))
    if items.isEmpty then (← c.nested []).stmts otherwise
    else
      let ref ← alloc (.loop ⟨items, 0, c.depth, none, again⟩)
      let parts ← items.zipIdx.mapM fun (d, i) => do
        match ← cell ref with
        | .loop l => store ref (.loop { l with index := i })
        | _ => pure ()
        let inner ← c.nested [("loop", .loop ref)]
        inner.assign target d
        Context.stmts { inner with depth := 1 } body
      return String.join parts
  | .assign target e => do
    c.assign target (← c.expr e)
    return ""
  | .capture target filter body => do
    let d ← written (← (← c.nested []).stmts body)
    match filter with
    | none => c.assign target d
    | some filter => c.assign target (← Context.expr { c with captured := d } filter)
    return ""
  | .definition name parameters body => do
    let ref ← alloc (.closure ⟨.definition name parameters body, c.scope⟩)
    c.bindName name (.closure ref)
    return ""
  | .callBlock call parameters body => do
    let ref ← alloc (.closure ⟨.definition "" parameters body, c.scope⟩)
    match call with
    | .call e positional named more moreNamed => do
      let f ← c.expr e
      let positional ← c.exprs positional
      let named ← c.namedExprs named
      let more ← c.option more
      let moreNamed ← c.option moreNamed
      output (← c.call f ⟨positional ++ (← spread more),
        named ++ [("caller", .closure ref)] ++ (← spreadNamed moreNamed)⟩)
    | e => do output (← c.expr e)
  | .filterBlock filter body => do
    let inner ← c.nested []
    let d ← written (← inner.stmts body)
    output (← Context.expr { inner with captured := d } filter)
  | .bind bindings body => do
    let inner ← c.nested []
    bindings.forM fun (t, e) => do inner.assign t (← c.expr e)
    inner.stmts body
  | .block name seesLocals required body => do
    if required then fail (.requiredBlock name)
    else
      let outer := if seesLocals then c else { c with scope := topScope }
      (← outer.nested []).stmts body
  | .escaping mode body => do
    let mode ← truthy (← c.expr mode)
    let inner ← c.nested []
    withEscaping mode (inner.stmts body)
  | .reference e oneOfSeveral => do
    let d ← c.expr e
    if oneOfSeveral then
      match d with
      | .text .. => fail .noLoader
      | .undefined _ message => fail (.undefined message)
      | d => if (← elements d).isEmpty then fail .noTemplates else fail .noLoader
    else fail .noLoader

def Context.stmts (c : Context) : List Stmt → Eval String
  | [] => return ""
  | s :: rest => do
    let first ← c.stmt s
    return first ++ (← c.stmts rest)

/-- What the first branch whose condition holds writes, if there is one. -/
def Context.branches (c : Context) : List (Expr × List Stmt) → Eval (Option String)
  | [] => return none
  | (test, body) :: rest => do
    if ← truthy (← c.expr test) then some <$> c.stmts body else c.branches rest

end

end ImagePreload.Template
