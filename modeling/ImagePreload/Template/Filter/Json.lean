import ImagePreload.Template.Compare
import ImagePreload.Text.Json

/-!
# Data as JSON

Mappings are written with their keys in order; numbers, truth values and null are keys too. What is
special in markup is written in escapes.
-/

namespace ImagePreload.Template.Filter

open Eval

private def floatJson (x : Float) : String :=
  if x.isNaN then "NaN"
  else if x.isInf then if x < 0.0 then "-Infinity" else "Infinity"
  else Decimal.floatText x

private def keyText (d : Datum) : Eval String :=
  match d with
  | .text s _ => return s
  | .null => return "null"
  | .bool b => return if b then "true" else "false"
  | .int n => ofResult (Datum.intText n)
  | .float x => return floatJson x
  | d => fail (.type ("keys must be str, int, float, bool or None, not " ++ d.typeName))

def jsonOf : Nat → Datum → Eval Json
  | 0, _ => fail .recursion
  | fuel + 1, d =>
    match d with
    | .null => return .null
    | .bool b => return .bool b
    | .int n => return .number (← ofResult (Datum.intText n))
    | .float x => return .number (floatJson x)
    | .text s _ => return .text s
    | .tuple items => return .array (← items.mapM (jsonOf fuel))
    | .group key items => return .array (← [key, items].mapM (jsonOf fuel))
    | .list ref => do return .array (← (← listItems ref).mapM (jsonOf fuel))
    | .map ref => do
      let entries ← sortWith (fun a b =>
        match a, b with
        | .tuple [k, _], .tuple [k', _] => less k k'
        | _, _ => return false) ((← mapEntries ref).map fun (k, v) => .tuple [k, v])
      return .object (← entries.mapM fun entry => do
        match entry with
        | .tuple [k, v] => return (← keyText k, ← jsonOf fuel v)
        | _ => return ("", .null))
    | d => fail (.type ("Object of type " ++ jsonTypeName d ++ " is not JSON serializable"))
where
  jsonTypeName : Datum → String
    | .date _ => "date"
    | .time _ => "datetime"
    | d => d.typeName

/-- JSON that may stand in markup. -/
def markupJson (indent : Option Nat) (d : Datum) : Eval String := do
  let written := (← jsonOf displayDepth d).render indent
  return .ofList (written.toList.flatMap fun c =>
    if c == '<' then "\\u003c".toList
    else if c == '>' then "\\u003e".toList
    else if c == '&' then "\\u0026".toList
    else if c == '\'' then "\\u0027".toList
    else [c])

end ImagePreload.Template.Filter
