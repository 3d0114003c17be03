import ImagePreload.Template.Datum

/-!
# The text of a datum

A datum is shown as the value it stands for. A container that is inside itself is shown as dots
there. An integer of too many digits has no text, and neither has anything that it is inside of.
-/

namespace ImagePreload.Template

/-- Deeper nesting than this is not shown. -/
def displayDepth : Nat := 2000

namespace Datum

open Value (bracketed)

/-- The text of an integer, unless it is too long for one. -/
def intText (n : Int) : Except TemplateError String :=
  if Value.isLongInt n then .error .longText else .ok (toString n)

private def quotedRange (start stop step : Int) : Except TemplateError String :=
  let parts := if step == 1 then [start, stop] else [start, stop, step]
  bracketed "range(" ")" <$> parts.mapM intText

/-- How many items a range has. -/
def rangeLength (start stop step : Int) : Nat :=
  if step > 0 then (Int.fdiv (stop - start + step - 1) step).toNat
  else (Int.fdiv (start - stop - step - 1) (-step)).toNat

def rangeItems (start stop step : Int) : List Datum :=
  (List.range (rangeLength start stop step)).map fun (i : Nat) => .int (start + (i : Int) * step)

/-- The quoted text of a datum; `within` holds the containers around it. -/
def quotedIn (cells : Array Cell) (within : List Nat) : Nat → Datum → Except TemplateError String
  | 0, _ => .ok "..."
  | fuel + 1, d =>
    let items (within : List Nat) (ds : List Datum) : Except TemplateError (List String) :=
      ds.mapM (quotedIn cells within fuel)
    let pairs (within : List Nat) (entries : List (Datum × Datum)) :
        Except TemplateError (List String) :=
      entries.mapM fun (k, v) => do
        return (← quotedIn cells within fuel k) ++ ": " ++ (← quotedIn cells within fuel v)
    match d with
    | .null => .ok "None"
    | .bool b => .ok (if b then "True" else "False")
    | .int n => intText n
    | .float x => .ok (Decimal.floatText x)
    | .text s safe => .ok (if safe then "Markup(" ++ Text.quoted s ++ ")" else Text.quoted s)
    | .bytes data => .ok (Text.quotedBytes data)
    | .date d => .ok (Value.quotedDate d)
    | .time t => .ok (Value.quotedTime t)
    | .undefined .. => .ok "Undefined"
    | .tuple [d] => return "(" ++ (← quotedIn cells within fuel d) ++ ",)"
    | .tuple ds => bracketed "(" ")" <$> items within ds
    | .group key ds => bracketed "(" ")" <$> items within [key, ds]
    | .set [] => .ok "set()"
    | .set ds => bracketed "\x7b" "\x7d" <$> items within ds
    | .range start stop step => quotedRange start stop step
    | .list ref =>
      if within.contains ref then .ok "[...]"
      else
        match cells.getD ref default with
        | .list ds => bracketed "[" "]" <$> items (ref :: within) ds
        | _ => .ok "[]"
    | .map ref =>
      if within.contains ref then .ok "\x7b...\x7d"
      else
        match cells.getD ref default with
        | .map entries => bracketed "\x7b" "\x7d" <$> pairs (ref :: within) entries
        | _ => .ok "\x7b\x7d"
    | .view part ref =>
      match cells.getD ref default with
      | .map entries =>
        match part with
        | .keys => bracketed "dict_keys([" "])" <$> items within (entries.map (·.1))
        | .values => bracketed "dict_values([" "])" <$> items within (entries.map (·.2))
        | .items =>
          bracketed "dict_items([" "])" <$> items within (entries.map fun (k, v) => .tuple [k, v])
      | _ => .ok ""
    | .stream _ => .ok "<generator object>"
    | .builtin f =>
      match f with
      | .range => .ok "<class 'range'>"
      | .dict => .ok "<class 'dict'>"
      | .fields => .ok "<class 'jinja2.utils.Namespace'>"
      | .cycler => .ok "<class 'jinja2.utils.Cycler'>"
      | .joiner => .ok "<class 'jinja2.utils.Joiner'>"
      | f => .ok ("<function " ++ f.signatureName ++ ">")
    | .method object name =>
      .ok ("<built-in method " ++ name ++ " of " ++ object.typeName ++ " object>")
    | .closure ref =>
      match cells.getD ref default with
      | .closure { routine := .definition name .., .. } =>
        .ok ("<Macro " ++ Text.quoted name ++ ">")
      | _ => .ok "<LoopContext>"
    | .loop ref =>
      match cells.getD ref default with
      | .loop l =>
        .ok ("<LoopContext " ++ toString (l.index + 1) ++ "/" ++ toString l.items.length ++ ">")
      | _ => .ok ""
    | .cycler _ => .ok "<jinja2.utils.Cycler object>"
    | .joiner _ => .ok "<jinja2.utils.Joiner object>"
    | .fields ref =>
      match cells.getD ref default with
      | .fields entries => do
        let shown ← pairs within (entries.map fun (k, v) => (plain k, v))
        return "<Namespace " ++ bracketed "\x7b" "\x7d" shown ++ ">"
      | _ => .ok ""
    | .blocks => .ok "<TemplateReference None>"
    | .block name => .ok ("<BlockReference " ++ Text.quoted name ++ ">")
    | .type name => .ok ("<class '" ++ name ++ "'>")

end Datum

namespace Eval

/-- The quoted text of a datum. -/
def quoted (d : Datum) : Eval String := fun m =>
  (d.quotedIn m.cells [] displayDepth).map (·, m)

/-- The text of a datum. A missing value has one unless it is strict. -/
def display (d : Datum) : Eval String :=
  match d with
  | .text s _ => return s
  | .date d => return Calendar.dateText d
  | .time t => return Calendar.dateTimeText t
  | .undefined .strict message => fail (.undefined message)
  | .undefined .. => return ""
  | .block _ => return ""
  | d => quoted d

end Eval

end ImagePreload.Template
