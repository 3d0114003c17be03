import ImagePreload.Template.Evaluation

/-!
# Calls

A function that a template defines runs in a scope inside the one where it was defined. Parameters
that are not given take their defaults, or are missing. The fuel of a call bounds how deep such
functions call each other.
-/

namespace ImagePreload.Template

open Eval

private def isMissing : Option Datum → Bool
  | none => true
  | some _ => false

/-- What the parameters of a call stand for, and the arguments by name that are left. -/
private def matchParameters (parameters : Parameters) (given : Given) :
    List (String × Option Expr × Option Datum) × List (String × Datum) :=
  let byPosition := given.positional.take parameters.length
  let rest := parameters.drop byPosition.length
  let first := (parameters.zip byPosition).map fun ((name, default), d) => (name, default, some d)
  let second := rest.map fun (name, default) => (name, default, given.named.lookup name)
  let names := rest.map (·.1)
  (first ++ second, given.named.filter fun (name, _) => !names.contains name)

/-- Runs a function that a template defines. -/
private def runDefinition (c : Context) (name : String) (parameters : Parameters)
    (body : List Stmt) (given : Given) : Eval Datum := do
  let shown := if name.isEmpty then "None" else Text.quoted name
  let has (special : String) : Bool :=
    mentionedInBody special body && (parameters.lookup special).isNone
  let (bound, named) := matchParameters parameters given
  let named ←
    if has "caller" then
      c.bindName "caller"
        ((named.lookup "caller").getD (.undefined c.setting.policy.missing "No caller defined"))
      pure (named.filter (·.1 != "caller"))
    else pure named
  if has "kwargs" then
    c.bindName "kwargs" (← newMap (named.map fun (k, v) => (.plain k, v)))
  else
    match named with
    | [] => pure ()
    | (keyword, _) :: _ =>
      if (named.lookup "caller").isSome then fail (.macroCaller shown)
      else fail (.macroKeyword shown keyword)
  if has "varargs" then
    c.bindName "varargs" (.tuple (given.positional.drop parameters.length))
  else if given.positional.length > parameters.length then
    fail (.macroTooMany shown parameters.length)
  bound.forM fun (parameter, _, d) =>
    match d with
    | some d => c.bindName parameter d
    | none => return ()
  bound.forM fun (parameter, default, d) =>
    match d, default with
    | some _, _ => return ()
    | none, some e => do c.bindName parameter (← c.expr e)
    | none, none =>
      c.bindName parameter (.undefined c.setting.policy.missing
        ("parameter " ++ Text.quoted parameter ++ " was not provided"))
  written (← c.stmts body)

/-- Runs a loop again from inside itself. -/
private def runLoop (c : Context) (ref : Nat) (given : Given) : Eval Datum := do
  match ← cell ref with
  | .loop l =>
    let args ← ofResult (Signature.arguments ⟨"LoopContext.__call__", ["iterable"], [], 1⟩ given)
    match l.again with
    | none =>
      fail (.type "The loop must have the 'recursive' marker to be called recursively.")
    | some again =>
      match ← cell again with
      | .closure ⟨.loop target test body otherwise, scope⟩ =>
        let inner := { c with scope, captured := args.headD .null, depth := l.depth + 1 }
        written (← inner.stmt (.loop target .body test true body otherwise))
      | _ => return .null
  | _ => return .null

/-- The result of a call. -/
def call (s : Setting) : Nat → Datum → Given → Eval Datum
  | 0, _, _ => fail .recursion
  | fuel + 1, f, given => do
    let context (scope : Nat) : Context :=
      { setting := s, scope, captured := .null, depth := 1, call := call s fuel }
    match f with
    | .closure ref =>
      match ← cell ref with
      | .closure ⟨.definition name parameters body, scope⟩ =>
        runDefinition (← (context scope).nested []) name parameters body given
      | _ => return .null
    | .loop ref => runLoop (context topScope) ref given
    | .block name =>
      match s.blocks.lookup name with
      | some body => written (← (← (context topScope).nested []).stmts body)
      | none => return .null
    | .builtin b => b.call s given
    | .method d name => callMethod s.policy d name given
    | .joiner ref =>
      match ← cell ref with
      | .joiner separator used =>
        store ref (.joiner separator true)
        return if used then separator else .plain ""
      | _ => return .null
    | .undefined _ message => fail (.undefined message)
    | d => fail (.notCallable d.typeName)

/-- How deep functions that a template defines may call each other. -/
def callDepth : Nat := 240

end ImagePreload.Template
