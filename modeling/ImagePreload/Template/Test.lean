import ImagePreload.Template.Attribute

/-!
# Tests

A test says whether a value is of some sort or stands in some relation to another one.
-/

namespace ImagePreload.Template.Test

open Eval

private def relation? : String → Option (String × CompareOp)
  | "eq" | "equalto" => some ("eq", .eq)
  | "ne" => some ("ne", .ne)
  | "gt" | "greaterthan" => some ("gt", .gt)
  | "ge" => some ("ge", .ge)
  | "lt" | "lessthan" => some ("lt", .lt)
  | "le" => some ("le", .le)
  | _ => none

/-- The tests that look at nothing but the value. -/
def plainTests : List String :=
  ["boolean", "callable", "defined", "escaped", "even", "false", "filter", "float", "integer",
    "iterable", "lower", "mapping", "none", "number", "odd", "sequence", "string", "test", "true",
    "undefined", "upper"]

def names : List String :=
  plainTests ++ ["divisibleby", "eq", "equalto", "ge", "greaterthan", "gt", "in", "le", "lessthan",
    "lt", "ne", "sameas"]

private def signature (name : String) : Signature :=
  match name with
  | "divisibleby" => ⟨"test_divisibleby", ["value", "num"], [], 0⟩
  | "sameas" => ⟨"test_sameas", ["value", "other"], [], 0⟩
  | "in" => ⟨"test_in", ["value", "seq"], [], 0⟩
  | "filter" | "test" => ⟨"test_" ++ name, ["value"], [], 1⟩
  | name => ⟨"test_" ++ name, ["value"], [], 0⟩

/-- Whether two data are the same object. -/
def same (a b : Datum) : Bool :=
  match a, b with
  | .null, .null => true
  | .bool s, .bool t => s == t
  | .int s, .int t => s == t && -5 ≤ s && s ≤ 256
  | .text s false, .text t false => s == t
  | .list s, .list t | .map s, .map t | .stream s, .stream t | .closure s, .closure t
  | .loop s, .loop t | .cycler s, .cycler t | .joiner s, .joiner t | .fields s, .fields t => s == t
  | .builtin f, .builtin g => f == g
  | _, _ => false

def isCallable : Datum → Bool
  | .builtin _ | .method .. | .closure _ | .joiner _ | .undefined .. | .loop _ | .block _
  | .type _ => true
  | _ => false

private def modulus (d : Datum) (n : Int) : Eval Datum := do
  binary .mod d (.int n)

private def plain (filters : List String) (name : String) (d : Datum) : Eval Bool := do
  match name with
  | "boolean" => return (d matches .bool _)
  | "callable" => return isCallable d
  | "defined" => return !d.isUndefined
  | "undefined" => return d.isUndefined
  | "escaped" =>
    return match d with
      | .text _ true | .undefined .chainable _ => true
      | _ => false
  | "even" => equal (← modulus d 2) (.int 0)
  | "odd" => equal (← modulus d 2) (.int 1)
  | "true" => return (d matches .bool true)
  | "false" => return (d matches .bool false)
  | "none" => return (d matches .null)
  | "integer" => return (d matches .int _)
  | "float" => return (d matches .float _)
  | "number" => return d.number?.isSome
  | "string" => return (d matches .text ..)
  | "mapping" => return (d matches .map _)
  | "sequence" =>
    match d with
    | .undefined kind _ => return kind != .strict
    | .text .. | .bytes _ | .tuple _ | .group .. | .range .. | .list _ | .map _ => return true
    | _ => return false
  | "iterable" =>
    match d with
    | .text .. | .bytes _ | .tuple _ | .group .. | .set _ | .range .. | .list _ | .map _ | .view ..
    | .stream _ | .loop _ => return true
    | .undefined .strict message => fail (.undefined message)
    | .undefined .. => return true
    | _ => return false
  | "lower" => return Text.isLower (← display d)
  | "upper" => return Text.isUpper (← display d)
  | "filter" =>
    match d with
    | .text s _ => return filters.contains s
    | d => do
      checkUse d
      return false
  | _ =>
    match d with
    | .text s _ => return names.contains s
    | d => do
      checkUse d
      return false

/-- The answer of a test, given the names of the known filters. -/
def apply (filters : List String) (name : String) (given : Given) : Eval Bool := do
  match relation? name with
  | some (own, op) =>
    if !given.named.isEmpty then fail (.type (own ++ "() takes no keyword arguments"))
    else
      match given.positional with
      | [a, b] => Eval.compare op a b
      | args =>
        fail (.type (own ++ " expected 2 arguments, got " ++ toString args.length))
  | none =>
    if name == "callable" then
      if !given.named.isEmpty then fail (.type "callable() takes no keyword arguments")
      else if given.positional.length != 1 then
        fail (.type ("callable() takes exactly one argument ("
          ++ toString given.positional.length ++ " given)"))
      else return isCallable (given.positional.headD .null)
    else
      let args ← ofResult ((signature name).arguments given)
      let value := args.headD .null
      let other := args.getD 1 .null
      match name with
      | "divisibleby" => equal (← binary .mod value other) (.int 0)
      | "sameas" => return same value other
      | "in" => contains value other
      | name => plain filters name value

end ImagePreload.Template.Test
