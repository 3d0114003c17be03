import ImagePreload.Template.Filter

/-!
# Functions that every template can call

The environment of the process, random texts, sums and products, ranges, mappings, and objects that
remember something between two uses.
-/

namespace ImagePreload.Template.Builtin

open Eval

private def noNames (f : Builtin) (given : Given) : Eval Unit :=
  match given.named with
  | [] => return ()
  | (name, _) :: _ => fail (.call f.signatureName (.unexpected name))

private def bound (f : Builtin) (required : List String) (optional : List (String × Datum))
    (hidden : Nat) (given : Given) : Eval (List Datum) :=
  ofResult (Signature.arguments ⟨f.signatureName, required, optional, hidden⟩ given)

private def environmentValue (s : Setting) (given : Given) : Eval Datum := do
  let args ← bound .env ["name"] [("default", .plain "")] 0 given
  match args.headD .null with
  | .text name _ =>
    match s.environment.lookup name with
    | some value => return .plain value
    | none => return args.getD 1 .null
  | d => fail (.textExpected d.typeName)

/-- A random text of lower-case letters and digits. -/
def randomText : Nat → Eval (List Char)
  | 0 => return []
  | n + 1 => do
    let c := defaultAlphabet.getD (← random defaultAlphabet.length) 'a'
    return c :: (← randomText n)

private def randomOf (given : Given) : Eval Datum := do
  let args ← bound .rand ["length"] [] 0 given
  let n ← Filter.toInteger 10 (args.headD .null)
  return .plain (.ofList (← randomText n.toNat))

private def folded (f : Builtin) (step : Int → Int → Int) (start : Int) (given : Given) :
    Eval Datum := do
  noNames f given
  .int <$> given.positional.foldlM (fun n d => do return step n (← Filter.toInteger 10 d)) start

private def rangeOf (given : Given) : Eval Datum := do
  if !given.named.isEmpty then fail (.type "range() takes no keyword arguments")
  let args ← ofResult (Counting.arguments (.expected 1 3) "" "range" given)
  let bounds ← args.mapM index
  match bounds with
  | [stop] => return .range 0 stop 1
  | [start, stop] => return .range start stop 1
  | [start, stop, step] =>
    if step == 0 then fail (.value "range() arg 3 must not be zero")
    else return .range start stop step
  | _ => return .range 0 0 1

/-- The entries of at most one mapping and of named arguments. -/
private def entriesOfCall (given : Given) : Eval (List (Datum × Datum)) := do
  let entries ←
    match given.positional with
    | [] => pure []
    | [d] => entriesOf d
    | args =>
      fail (.type ("dict expected at most 1 argument, got " ++ toString args.length))
  given.named.foldlM (fun entries (k, v) => putEntry (.plain k) v entries) entries

private def fieldsOf (given : Given) : Eval Datum := do
  let entries ← entriesOfCall given
  let named ← entries.mapM fun (k, v) => do return (← display k, v)
  .fields <$> alloc (.fields named)

private def fillerWords : List String :=
  ["a", "ac", "ad", "amet", "ante", "arcu", "at", "dolor", "est", "eu", "ipsum", "lorem", "nec",
    "non", "nunc", "orci", "sed", "sit", "ut", "vel"]

private def fillerParagraph (count : Nat) : Eval String := do
  let words ← (List.range count).mapM fun _ => do
    return fillerWords.getD (← random fillerWords.length) "lorem"
  return Text.capitalize (" ".intercalate words) ++ "."

private def filler (given : Given) : Eval Datum := do
  let args ← bound .lipsum []
    [("n", .int 5), ("html", .bool true), ("min", .int 20), ("max", .int 100)] 0 given
  let n ← index (args.headD .null)
  let low ← index (args.getD 2 .null)
  let high ← index (args.getD 3 .null)
  let paragraphs ← (List.range n.toNat).mapM fun _ => do
    fillerParagraph (low.toNat + (← random (high - low).toNat))
  if ← truthy (args.getD 1 .null) then
    return .text ("\n".intercalate (paragraphs.map fun p => "<p>" ++ p ++ "</p>")) true
  else return .plain ("\n\n".intercalate paragraphs)

/-- The result of a call. -/
def call (s : Setting) (f : Builtin) (given : Given) : Eval Datum := do
  match f with
  | .env => environmentValue s given
  | .rand => randomOf given
  | .add => folded f (· + ·) 0 given
  | .multiply => folded f (· * ·) 1 given
  | .range => rangeOf given
  | .dict => newMap (← entriesOfCall given)
  | .lipsum => filler given
  | .cycler =>
    noNames f given
    if given.positional.isEmpty then fail .emptyCycle
    else .cycler <$> alloc (.cycler given.positional 0)
  | .joiner =>
    let args ← bound f [] [("sep", .plain ", ")] 1 given
    .joiner <$> alloc (.joiner (args.headD .null) false)
  | .fields => fieldsOf given

end ImagePreload.Template.Builtin
