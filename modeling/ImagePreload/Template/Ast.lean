/-!
# The tree of a template

A template is a list of statements. Texts and outputs write something, the others decide what is
written and which names stand for what.
-/

namespace ImagePreload.Template

inductive UnaryOp where
  | negate
  | plus
  | not
  deriving DecidableEq, Repr

inductive BinaryOp where
  | add
  | sub
  | mul
  | div
  | floorDiv
  | mod
  | pow
  deriving DecidableEq, Repr

inductive CompareOp where
  | eq
  | ne
  | lt
  | le
  | gt
  | ge
  | isIn
  | notIn
  deriving DecidableEq, Repr

inductive Literal where
  | none
  | bool (b : Bool)
  | int (n : Int)
  | float (x : Float)
  | text (s : String)

inductive Expr where
  | literal (value : Literal)
  | name (name : String)
  | list (items : List Expr)
  | tuple (items : List Expr)
  | dict (entries : List (Expr × Expr))
  | unary (op : UnaryOp) (operand : Expr)
  | binary (op : BinaryOp) (left right : Expr)
  | and (left right : Expr)
  | or (left right : Expr)
  | compare (first : Expr) (rest : List (CompareOp × Expr))
  | concat (parts : List Expr)
  | conditional (test result : Expr) (otherwise : Option Expr)
  | attribute (object : Expr) (name : String)
  | item (object index : Expr)
  | slice (start stop step : Option Expr)
  | call (function : Expr) (positional : List Expr) (named : List (String × Expr))
      (morePositional moreNamed : Option Expr)
  /-- A filter applied to a value. -/
  | filter (name : String) (value : Expr) (positional : List Expr) (named : List (String × Expr))
      (morePositional moreNamed : Option Expr)
  | test (name : String) (value : Expr) (positional : List Expr) (named : List (String × Expr))
      (morePositional moreNamed : Option Expr)
  /-- The text of the block that a filter stands at the head of, or the items that a loop was called
  with. -/
  | body

/-- What an assignment binds. -/
inductive Target where
  | name (name : String)
  | tuple (parts : List Target)
  /-- A field of an object that keeps fields. -/
  | field (object name : String)

/-- Parameters and their defaults. -/
abbrev Parameters := List (String × Option Expr)

inductive Stmt where
  | text (s : String)
  | output (e : Expr)
  | cond (branches : List (Expr × List Stmt)) (otherwise : List Stmt)
  | loop (target : Target) (items : Expr) (test : Option Expr) (recursive : Bool)
      (body otherwise : List Stmt)
  | assign (target : Target) (value : Expr)
  /-- An assignment of the text of a block, through a filter if there is one. -/
  | capture (target : Target) (filter : Option Expr) (body : List Stmt)
  | definition (name : String) (parameters : Parameters) (body : List Stmt)
  /-- A call that hands the block over as a function of the given parameters. -/
  | callBlock (call : Expr) (parameters : Parameters) (body : List Stmt)
  | filterBlock (filter : Expr) (body : List Stmt)
  | bind (bindings : List (Target × Expr)) (body : List Stmt)
  | block (name : String) (seesLocals required : Bool) (body : List Stmt)
  | escaping (mode : Expr) (body : List Stmt)
  /-- A reference to another template, of which there are none. -/
  | reference (template : Expr) (oneOfSeveral : Bool)

instance : Inhabited Expr := ⟨.literal .none⟩

instance : Inhabited Stmt := ⟨.text ""⟩

end ImagePreload.Template
