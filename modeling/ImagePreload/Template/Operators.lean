import ImagePreload.Format.Percent
import ImagePreload.Template.Compare

/-!
# Operators on data

Sums of numbers add, sums of texts, lists and tuples concatenate; a product with an integer repeats.
A remainder whose left side is a text puts arguments into it. Whatever becomes part of a safe text
is escaped.
-/

namespace ImagePreload.Template

/-- A text with the characters that mean something in markup written as entities. -/
def escapeMarkup (s : String) : String :=
  .ofList (s.toList.flatMap fun c =>
    if c == '&' then "&amp;".toList
    else if c == '<' then "&lt;".toList
    else if c == '>' then "&gt;".toList
    else if c == '\'' then "&#39;".toList
    else if c == '"' then "&#34;".toList
    else [c])

namespace BinaryOp

def symbol : BinaryOp → String
  | .add => "+"
  | .sub => "-"
  | .mul => "*"
  | .div => "/"
  | .floorDiv => "//"
  | .mod => "%"
  | .pow => "** or pow()"

def onNumbers : BinaryOp → Number → Number → Except ArithmeticError Number
  | .add => Number.add
  | .sub => Number.sub
  | .mul => Number.mul
  | .div => Number.div
  | .floorDiv => Number.floorDiv
  | .mod => Number.mod
  | .pow => Number.pow

end BinaryOp

namespace CompareOp

def symbol : CompareOp → String
  | .eq => "=="
  | .ne => "!="
  | .lt => "<"
  | .le => "<="
  | .gt => ">"
  | .ge => ">="
  | .isIn | .notIn => "in"

end CompareOp

/-- Formats as failures of a template. -/
def TemplateError.ofPercent (e : Format.PercentError) : TemplateError :=
  match e with
  | .arithmetic cause => .arithmetic cause
  | e =>
    match e.kind with
    | .value => .value e.message
    | .overflow => .overflow e.message
    | .key => .key e.message
    | _ => .type e.message

def TemplateError.ofFormat (e : Format.FormatError) : TemplateError :=
  match e with
  | .arithmetic cause => .arithmetic cause
  | .charRange | .charTooLarge => .overflow e.message
  | e => if e.isType then .type e.message else .value e.message

namespace Eval

/-- The integer a datum is, for a place that takes nothing else. -/
def index (d : Datum) : Eval Int :=
  match d with
  | .int n => return n
  | .bool b => return if b then 1 else 0
  | d => fail (.notInteger d.typeName)

def liftArithmetic {α : Type} (r : Except ArithmeticError α) : Eval α :=
  ofResult (r.mapError .arithmetic)

/-- The result of a computation, with whatever it changes undone. -/
def peek {α : Type} (e : Eval α) : Eval (Except TemplateError α) := fun m =>
  .ok ((e m).map (·.1), m)

/-- A text as a part of markup. -/
def markup (d : Datum) : Eval String := do
  match d with
  | .text s true => return s
  | d => return escapeMarkup (← display d)

/-- What a percent format sees of a datum. -/
def formatArgument (safe : Bool) (d : Datum) : Eval (Format.Argument TemplateError) := do
  let shown ← peek (if safe then markup d else display d)
  let quoted ← peek (quoted d)
  return {
    text := fun _ => shown
    quoted := fun _ => if safe then quoted.map escapeMarkup else quoted
    number := d.number?
    single :=
      match d with
      | .text s _ =>
        match s.toList with
        | [c] => some c
        | _ => none
      | _ => none
    typeName := d.typeName }

/-- The arguments for the parts of a text that percent signs mark. -/
def percent (format : String) (safe : Bool) (d : Datum) : Eval Datum := do
  let items ←
    match d with
    | .tuple items => items.mapM (formatArgument safe)
    | d => return ← single d
  put ⟨items, none⟩
where
  put (args : Format.Arguments TemplateError) : Eval Datum := do
    return .text (← ofResult (Format.percent .ofPercent format args)) safe
  single (d : Datum) : Eval Datum := do
    let argument ← formatArgument safe d
    match d with
    | .map ref =>
      let named ← (← mapEntries ref).filterMapM fun (k, v) => do
        match k with
        | .text s _ => return some (s, ← formatArgument safe v)
        | _ => return none
      put ⟨[argument], some fun key =>
        match named.lookup key with
        | some a => .ok a
        | none => .error (.key key)⟩
    | .undefined .chainable _ => put ⟨[argument], some fun _ => .ok argument⟩
    | .undefined _ message => put ⟨[argument], some fun _ => .error (.undefined message)⟩
    | .list _ | .range .. => put ⟨[argument], some fun _ => wrongKey d.typeName⟩
    | .bytes _ => put ⟨[argument], some fun _ => wrongKey "byte"⟩
    | _ => put ⟨[argument], none⟩
  wrongKey (typeName : String) : Except TemplateError (Format.Argument TemplateError) :=
    .error (.type (typeName ++ " indices must be integers or slices, not str"))

private def repeated {α : Type} (items : List α) (n : Int) : List α :=
  (List.replicate n.toNat items).flatten

/-- A sequence repeated, if the datum is one. -/
def repeat? (d : Datum) (n : Int) : Option (Eval Datum) :=
  match d with
  | .text s safe => some (return .text (.ofList (repeated s.toList n)) safe)
  | .bytes data => some (return .bytes (repeated data n))
  | .tuple items => some (return .tuple (repeated items n))
  | .list ref => some (do newList (repeated (← listItems ref) n))
  | _ => none

def isSequence : Datum → Bool
  | .text .. | .bytes _ | .tuple _ | .list _ => true
  | _ => false

/-- An operator on two data of which neither is missing. -/
def binaryDefined (op : BinaryOp) (a b : Datum) : Eval Datum :=
  match a.number?, b.number? with
  | some m, some n => return .ofNumber (← liftArithmetic (op.onNumbers m n))
  | _, _ =>
    let unsupported : Eval Datum := fail (.operands op.symbol a.typeName b.typeName)
    match op with
    | .add =>
      match a, b with
      | .text s false, .text t false => return .plain (s ++ t)
      | .text .., .text .. => return .text ((← markup a) ++ (← markup b)) true
      | .tuple s, .tuple t => return .tuple (s ++ t)
      | .bytes s, .bytes t => return .bytes (s ++ t)
      | .list r, .list s => do newList ((← listItems r) ++ (← listItems s))
      | .text _ false, b => fail (.concatenation "str" b.typeName)
      | .tuple _, b => fail (.concatenation "tuple" b.typeName)
      | .list _, b => fail (.concatenation "list" b.typeName)
      | .bytes _, b => fail (.type ("can't concat " ++ b.typeName ++ " to bytes"))
      | _, _ => unsupported
    | .mul =>
      let times (sequence count : Datum) : Eval Datum :=
        match count with
        | .int n => (repeat? sequence n).getD unsupported
        | .bool t => (repeat? sequence (if t then 1 else 0)).getD unsupported
        | count => fail (.repetition count.typeName)
      if isSequence a then times a b
      else if isSequence b then times b a
      else unsupported
    | .mod =>
      match a with
      | .text s safe => percent s safe b
      | _ => unsupported
    | _ => unsupported

/-- An operator on two data. A missing value has none, but may be put into a text. -/
def binary (op : BinaryOp) (a b : Datum) : Eval Datum := do
  match op, a, b with
  | .mod, .text s safe, .undefined .. => percent s safe b
  | op, a, b =>
    checkDefined a
    checkDefined b
    binaryDefined op a b

def unary (op : UnaryOp) (d : Datum) : Eval Datum := do
  match op with
  | .not => return .bool (!(← truthy d))
  | .plus | .negate =>
    checkDefined d
    match d.number? with
    | some n => return .ofNumber (if op == .negate then n.neg else n)
    | none => fail (.operand (if op == .negate then "-" else "+") d.typeName)

def compare (op : CompareOp) (a b : Datum) : Eval Bool := do
  match op with
  | .eq => equal a b
  | .ne => return !(← equal a b)
  | .lt => return (← order "<" a b) == some .lt
  | .le => return [some .lt, some .eq].contains (← order "<=" a b)
  | .gt => return (← order ">" a b) == some .gt
  | .ge => return [some .gt, some .eq].contains (← order ">=" a b)
  | .isIn => contains a b
  | .notIn => return !(← contains a b)

/-- The texts of data, one behind the other. -/
def concat (parts : List Datum) : Eval Datum := do
  if (← get).escaping && parts.any (fun d => d matches .text _ true) then
    return .text (String.join (← parts.mapM markup)) true
  else return .plain (String.join (← parts.mapM display))

end Eval

end ImagePreload.Template
