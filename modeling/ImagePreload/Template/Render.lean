import ImagePreload.Template.Call
import ImagePreload.Template.Check
import ImagePreload.Template.Parser
import ImagePreload.Value.Pairs

/-!
# Rendering

A template is rendered with the values of some names. Further templates, usually definitions of
functions, are put in front of it, each followed by a line feed.
-/

namespace ImagePreload.Template

/-- What a rendering may use besides the template and the values of names. -/
structure Surroundings where
  policy : MissingKeyPolicy
  environment : List (String × String)
  entropy : Entropy

/-- The scopes a template starts with: the functions that are always there, the given names, and the
scope of the template itself. -/
def startCells (vars : List (String × Datum)) : Array Cell :=
  let builtins : List (String × Datum) := Builtin.all.map fun b => (b.name, .builtin b)
  #[.scope ⟨builtins, none⟩, .scope ⟨vars, some 0⟩, .scope ⟨[("self", .blocks)], some 1⟩]

/-- The data that the given names stand for. -/
def namedData (vars : Entries) : Eval (List (String × Datum)) :=
  vars.mapM fun (k, v) =>
    match k with
    | .text name => do return (name, ← Datum.ofValue v)
    | _ => Eval.fail (.type "keywords must be strings")

/-- The text of a template that was read. -/
def run (s : Surroundings) (blocks : List (String × List Stmt)) (vars : Entries)
    (template : List Stmt) : Except TemplateError String :=
  let setting : Setting := ⟨s.policy, s.environment, blocks⟩
  let context : Context :=
    { setting, scope := topScope, captured := .null, depth := 1,
      call := call setting callDepth }
  let go : Eval String := do
    let data ← namedData vars
    Eval.store 1 (.scope ⟨data, some 0⟩)
    context.stmts template
  (go { cells := startCells [], entropy := s.entropy, escaping := false }).map (·.1)

/-- The text of a template with the values of names. -/
def renderSource (s : Surroundings) (source : String) (vars : Entries) :
    Except TemplateError String := do
  let template ← parse source.toList
  let blocks ← check template
  run s blocks vars template

/-- Further templates joined in front of a template. -/
def joinSources (functions : List Value) (template : Value) : Except TemplateError String := do
  let front ← functions.mapM fun f =>
    match f with
    | .text s => .ok (s ++ "\n")
    | .list _ | .tuple _ | .bytes _ =>
      .error (if f matches .bytes _ then .type "can't concat str to bytes"
        else .concatenation f.typeName "str")
    | f => .error (.operands "+" f.typeName "str")
  match template with
  | .text s => return String.join front ++ s
  | v => throw (.concatenation "str" v.typeName)

/-- Renders a template with values of names and further templates in front of it. Values that count
as false are left out. -/
def render (s : Surroundings) (template vars functions : Value) : Except TemplateError String := do
  let functions ←
    if functions.truthy then
      match functions.elements? with
      | some fs => pure fs
      | none => throw (.notIterable functions.typeName)
    else pure []
  let source ← joinSources functions template
  -- the values are looked at only after the template was accepted
  let template ← parse source.toList
  let blocks ← check template
  let entries ← (vars.entriesOrEmpty).mapError .pairs
  run s blocks entries template

end ImagePreload.Template
