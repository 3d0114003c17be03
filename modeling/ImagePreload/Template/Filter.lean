import ImagePreload.Template.Filter.Json
import ImagePreload.Template.Filter.Sequence
import ImagePreload.Template.Filter.Text
import ImagePreload.Template.Test

/-!
# Filters

A filter turns one value into another one. Some take the name of a further filter or of a test and
apply it to every item.
-/

namespace ImagePreload.Template.Filter

open Eval

private def yes : Datum := .bool true

private def no : Datum := .bool false

/-- The filters and how they take their arguments, the value that is filtered first. -/
def signatures : List (String × Signature) :=
  let own (name : String) (more : List String) (optional : List (String × Datum)) (hidden : Nat)
      (value : String) : String × Signature :=
    (name, ⟨"do_" ++ name, value :: more, optional, hidden⟩)
  let simple (name : String) : String × Signature := own name [] [] 0 "value"
  let text (name : String) : String × Signature := own name [] [] 0 "s"
  let caseAndPath : List (String × Datum) := [("case_sensitive", no), ("attribute", .null)]
  [own "attr" ["name"] [] 1 "obj",
    own "batch" ["linecount"] [("fill_with", .null)] 0 "value",
    text "capitalize",
    own "center" [] [("width", .int 80)] 0 "value",
    own "default" [] [("default_value", .plain ""), ("boolean", no)] 0 "value",
    ("d", ⟨"do_default", ["value"], [("default_value", .plain ""), ("boolean", no)], 0⟩),
    own "dictsort" [] [("case_sensitive", no), ("by", .plain "key"), ("reverse", no)] 0 "value",
    own "filesizeformat" [] [("binary", no)] 0 "value",
    own "first" [] [] 1 "seq",
    own "float" [] [("default", .float 0.0)] 0 "value",
    simple "forceescape",
    own "groupby" ["attribute"] [("default", .null), ("case_sensitive", no)] 1 "value",
    own "indent" [] [("width", .int 4), ("first", no), ("blank", no)] 0 "s",
    own "int" [] [("default", .int 0), ("base", .int 10)] 0 "value",
    simple "items",
    own "join" [] [("d", .plain ""), ("attribute", .null)] 1 "value",
    own "last" [] [] 1 "seq",
    simple "list",
    text "lower",
    own "max" [] caseAndPath 1 "value",
    own "min" [] caseAndPath 1 "value",
    simple "pprint",
    own "random" [] [] 1 "seq",
    own "replace" ["old", "new"] [("count", .null)] 1 "s",
    simple "reverse",
    own "round" [] [("precision", .int 0), ("method", .plain "common")] 0 "value",
    ("safe", ⟨"do_mark_safe", ["value"], [], 0⟩),
    own "slice" ["slices"] [("fill_with", .null)] 0 "value",
    own "sort" [] ([("reverse", no)] ++ caseAndPath) 1 "value",
    ("string", ⟨"soft_str", ["s"], [], 0⟩),
    simple "striptags",
    own "sum" [] [("attribute", .null), ("start", .int 0)] 1 "iterable",
    text "title",
    own "tojson" [] [("indent", .null)] 1 "value",
    own "trim" [] [("chars", .null)] 0 "value",
    own "truncate" [] [("length", .int 255), ("killwords", no), ("end", .plain "..."),
      ("leeway", .null)] 1 "s",
    own "unique" [] caseAndPath 1 "value",
    text "upper",
    simple "urlencode",
    own "urlize" [] [("trim_url_limit", .null), ("nofollow", no), ("target", .null),
      ("rel", .null), ("extra_schemes", .null)] 1 "value",
    text "wordcount",
    own "wordwrap" [] [("width", .int 79), ("break_long_words", yes), ("wrapstring", .null),
      ("break_on_hyphens", yes)] 1 "s",
    own "xmlattr" [] [("autospace", yes)] 1 "d"]

/-- The filters that apply another filter or a test. -/
def appliers : List String := ["map", "reject", "rejectattr", "select", "selectattr"]

def names : List String :=
  signatures.map (·.1) ++ appliers ++ ["abs", "count", "e", "escape", "format", "length"]

private def noFirst (s : Setting) (which : String) : Datum :=
  .undefined s.policy.missing ("No " ++ which ++ " item, sequence was empty.")

/-- The integer that a datum gives, as a whole number or as a text. -/
def toInteger (base : Nat) (d : Datum) : Eval Int := do
  match d with
  | .text s _ =>
    let digits := s.toList.countP Text.isDecimalDigit
    match Decimal.readInt? base s with
    | some n =>
      if base == 10 && digits > Value.digitLimit then fail (.longInteger digits) else return n
    | none => fail (.integerText base s)
  | .undefined _ message => fail (.undefined message)
  | d =>
    match d.number? with
    | some x => liftArithmetic x.toInt
    | none => fail (.noIntegerIn d.typeName)

def toDouble (d : Datum) : Eval Float := do
  match d with
  | .text s _ =>
    match Decimal.readFloat? s with
    | some x => return x
    | none => fail (.floatText s)
  | .undefined _ message => fail (.undefined message)
  | d =>
    match d.number? with
    | some x => liftArithmetic x.toFloat
    | none => fail (.noFloatIn d.typeName)

/-- The result of a computation, or another one if it fails in a way that is caught. -/
def orElse {α : Type} (first : Eval α) (caught : TemplateError → Bool) (second : Eval α) :
    Eval α := fun m =>
  match first m with
  | .ok r => .ok r
  | .error e => if caught e then second m else .error e

private def isTypeOrValue (e : TemplateError) : Bool :=
  e.kind == .type || e.kind == .value

private def isTypeValueOrOverflow (e : TemplateError) : Bool :=
  isTypeOrValue e || e.kind == .overflow

private def integer (d default base : Datum) : Eval Datum :=
  let first : Eval Datum := do
    match d with
    | .text .. => return .int (← toInteger (← index base).toNat d)
    | d => return .int (← toInteger 10 d)
  let second : Eval Datum := do return .int (← liftArithmetic (Number.truncate (← toDouble d)))
  orElse first isTypeOrValue (orElse second isTypeValueOrOverflow (return default))

/-- A power of ten as a number. -/
private def tenTo (d : Datum) : Eval Datum := binary .pow (.int 10) d

private def rounded (d precision : Datum) (method : String) : Eval Datum := do
  if !(["common", "ceil", "floor"].contains method) then
    fail (.filterArgument "method must be common, ceil or floor")
  else if method == "common" then
    match d.number? with
    | some x => return .ofNumber (x.roundTo (← index precision))
    | none => fail (.type ("type " ++ d.typeName ++ " doesn't define __round__ method"))
  else
    let scaled ← binary .mul d (← tenTo precision)
    match scaled.number? with
    | none => fail (.type ("must be real number, not " ++ scaled.typeName))
    | some x =>
      let whole ← match x with
        | .int n => pure (Datum.int n)
        | .float x =>
          .int <$> liftArithmetic (Number.truncate (if method == "ceil" then x.ceil else x.floor))
      binary .div whole (← tenTo precision)

private def replaced (d old new count : Datum) : Eval Datum := do
  let most ← match count with
    | .null => pure none
    | d => do
      let n ← index d
      pure (if n < 0 then none else some n.toNat)
  let apply (s old new : String) : String :=
    .ofList (Text.replace old.toList new.toList most s.toList)
  if (← get).escaping then
    return .text (apply (← markup d) (← display old) (← markup new)) true
  else return .plain (apply (← display d) (← display old) (← display new))

private def indentation (width : Datum) : Eval (List Char) := do
  match width with
  | .text s _ => return s.toList
  | d => return List.replicate (← index d).toNat ' '

private def attributesOf (d : Datum) : Eval String := do
  match d with
  | .map ref =>
    let parts ← (← mapEntries ref).filterMapM fun (k, v) => do
      match v with
      | .null | .undefined .. => return none
      | v =>
        let key ← display k
        if key.toList.any fun c => " \t\n\r\x0b\x0c/>=".toList.contains c then
          fail (.value ("Invalid character in attribute name: " ++ Text.quoted key))
        else return some ((← markup k) ++ "=\"" ++ (← markup v) ++ "\"")
    return " ".intercalate parts
  | .undefined _ message => fail (.undefined message)
  | d => fail (.attribute d.typeName "items")

private def queryOf (d : Datum) : Eval String := do
  let pairs (items : List (Datum × Datum)) : Eval String := do
    let parts ← items.mapM fun (k, v) => do
      return String.ofList (quotedQuery (← display k).toList ++ '='
        :: quotedQuery (← display v).toList)
    return "&".intercalate parts
  match d with
  | .map ref => pairs (← mapEntries ref)
  | .text s _ => return .ofList (quotedAddress ['/'] s.toList)
  | d =>
    match ← elements? d with
    | none => return .ofList (quotedAddress ['/'] (← display d).toList)
    | some items =>
      pairs (← items.mapM fun item => do
        match ← elements? item with
        | none =>
          fail (.type ("cannot unpack non-iterable " ++ item.typeName ++ " object"))
        | some [k, v] => return (k, v)
        | some parts =>
          if parts.length < 2 then fail (.unpackTooFew 2 parts.length)
          else fail (.unpackTooMany 2))

/-- A text as it is, or the text of something else. -/
private def softText (d : Datum) : Eval (String × Bool) := do
  match d with
  | .text s safe => return (s, safe)
  | d => return (← display d, false)

private def counted (name : String) (given : Given) (f : Datum → Eval Datum) : Eval Datum := do
  f ((← ofResult (Counting.one.arguments "" name given)).headD .null)

private def lengthOf (d : Datum) : Eval Datum := return .int (← Eval.length d)

private def absolute (d : Datum) : Eval Datum :=
  match d.number? with
  | some x => return .ofNumber x.abs
  | none => fail (.type ("bad operand type for abs(): " ++ Text.quoted d.typeName))

private def linkAttributes (nofollow target rel : Datum) : Eval String := do
  let rels ← match rel with
    | .null => pure []
    | d => pure (Text.words (← display d).toList |>.map String.ofList)
  let rels := (rels ++ (if ← truthy nofollow then ["nofollow"] else []) ++ ["noopener"]).eraseDups
  let target ← match target with
    | .null => pure ""
    | d => do pure (" target=\"" ++ (← markup d) ++ "\"")
  let sorted := rels.mergeSort (fun a b => decide (a ≤ b))
  return " rel=\"" ++ " ".intercalate sorted ++ "\"" ++ target

/-- The result of a filter whose arguments are in their places. -/
private def applyPlain (s : Setting) (name : String) (args : List Datum) : Eval Datum := do
  let value := args.headD .null
  let arg (i : Nat) : Datum := args.getD i .null
  let mapText (f : String → String) : Eval Datum := do
    let (t, safe) ← softText value
    return .text (f t) safe
  match name with
  | "attr" =>
    let own ← display (arg 1)
    match ← attribute? s.policy value own with
    | some found => return found
    | none => return s.policy.unknownAttribute value own
  | "batch" =>
    let count ← index (arg 1)
    let rows := batches count (arg 2) (← elements value)
    newStream (← rows.mapM newList)
  | "capitalize" => mapText Text.capitalize
  | "lower" => mapText Text.lower
  | "upper" => mapText Text.upper
  | "title" => mapText fun t => .ofList (titleCase t.toList)
  | "center" =>
    let width ← index (arg 1)
    mapText fun t => .ofList (TextMethod.centered ' ' width t.toList)
  | "default" | "d" =>
    if value.isUndefined then return arg 1
    else if ← truthy (arg 2) then return if ← truthy value then value else arg 1
    else return value
  | "dictsort" =>
    let byValue ← match arg 2 with
      | .text "key" _ => pure false
      | .text "value" _ => pure true
      | _ => fail (.filterArgument "You can only sort by either \"key\" or \"value\"")
    match value with
    | .map ref =>
      let caseMatters ← truthy (arg 1)
      let pairs := (← mapEntries ref).map fun (k, v) => Datum.tuple [k, v]
      let key (d : Datum) : Eval Datum :=
        match d with
        | .tuple [k, v] => return comparable caseMatters (if byValue then v else k)
        | d => return d
      newList (← sortBy key (← truthy (arg 3)) pairs)
    | .undefined _ message => fail (.undefined message)
    | d => fail (.attribute d.typeName "items")
  | "filesizeformat" => return .plain (fileSize (← truthy (arg 1)) (← toDouble value))
  | "first" => return ((← elements value).head?).getD (noFirst s "first")
  | "last" => return ((← backwards value).head?).getD (noFirst s "last")
  | "float" =>
    let read : Eval Datum := do return .float (← toDouble value)
    orElse read isTypeOrValue (return arg 1)
  | "int" => integer value (arg 1) (arg 2)
  | "forceescape" => return .text (escapeMarkup (← display value)) true
  | "groupby" =>
    let caseMatters ← truthy (arg 3)
    let steps := pathSteps (arg 1)
    let plainKey (d : Datum) : Eval Datum := follow s steps (arg 2) d
    let key (d : Datum) : Eval Datum := do return comparable caseMatters (← plainKey d)
    let sorted ← sortBy key false (← elements value)
    let runs ← runsBy key sorted
    newList (← runs.mapM fun (k, run) => do
      let k ← match run with
        | d :: _ => if caseMatters then pure k else plainKey d
        | [] => pure k
      return .group k (← newList run))
  | "indent" =>
    let (t, safe) ← match value with
      | .text t safe => pure (t, safe)
      | .undefined _ message => fail (.undefined message)
      | .list _ => fail (.attribute "list" "splitlines")
      | .tuple _ => fail (.type "can only concatenate tuple (not \"str\") to tuple")
      | d => fail (.operands "+=" d.typeName "str")
    let width ← indentation (arg 1)
    let first ← truthy (arg 2)
    let blank ← truthy (arg 3)
    return .text (.ofList (indented width first blank t.toList)) safe
  | "items" =>
    match value with
    | .map ref => newStream ((← mapEntries ref).map fun (k, v) => .tuple [k, v])
    | .undefined .. => newStream []
    | _ => fail (.type "Can only get item pairs from a mapping.")
  | "join" =>
    let items ← elements value
    let items ← match arg 2 with
      | .null => pure items
      | path => items.mapM (follow s (pathSteps path) .null)
    joined (arg 1) items
  | "list" => newList (← elements value)
  | "max" | "min" =>
    let caseMatters ← truthy (arg 1)
    let key := keyOf s (arg 2) caseMatters
    let ahead (a b : Datum) : Eval Bool :=
      if name == "max" then Eval.compare .gt a b else Eval.compare .lt a b
    return (← extreme ahead key (← elements value)).getD (noFirst s "aggregated")
  | "pprint" => return .plain (← quoted value)
  | "random" =>
    match ← elements value with
    | [] => return noFirst s "random"
    | items => return items.getD (← random items.length) .null
  | "replace" => replaced value (arg 1) (arg 2) (arg 3)
  | "reverse" =>
    match value with
    | .text t safe => return .text (.ofList t.toList.reverse) safe
    | d =>
      match ← elements? d with
      | some items => newStream items.reverse
      | none => fail (.filterArgument "argument must be iterable")
  | "round" =>
    checkRound value
    rounded value (arg 1) (← display (arg 2))
  | "safe" => return .text (← display value) true
  | "slice" =>
    let items ← elements value
    let count ← index (arg 1)
    if count == 0 then fail (.arithmetic .floorDivisionByZero)
    else newStream (← (columns count.toNat (arg 2) items).mapM newList)
  | "sort" =>
    let key := keysOf s (arg 3) (← truthy (arg 2))
    newList (← sortBy key (← truthy (arg 1)) (← elements value))
  | "string" =>
    let (t, safe) ← softText value
    return .text t safe
  | "striptags" => return .plain (.ofList (withoutTags (← display value).toList))
  | "sum" =>
    let items ← elements value
    let items ← match arg 1 with
      | .null => pure items
      | path => items.mapM (follow s (pathSteps path) .null)
    sumFrom (arg 2) items
  | "tojson" =>
    let indent ← match arg 1 with
      | .null => pure none
      | d => do pure (some (← index d).toNat)
    return .text (← markupJson indent value) true
  | "trim" =>
    let (t, safe) ← softText value
    TextMethod.apply t safe "strip" [arg 1]
  | "truncate" =>
    let leeway ← match arg 4 with
      | .null => pure 5
      | d => index d
    let length ← index (arg 1)
    let ending ← display (arg 3)
    ofResult (checkTruncation length leeway ending.length)
    match value with
    | .text t safe =>
      let cut := truncated length leeway (← truthy (arg 2)) ending.toList t.toList
      return .text (.ofList cut) safe
    | d => do
      discard (Eval.length d)
      return d
  | "unique" =>
    newStream (← distinctBy (keyOf s (arg 2) (← truthy (arg 1))) (← elements value))
  | "urlencode" => return .plain (← queryOf value)
  | "urlize" =>
    let limit ← match arg 1 with
      | .null => pure none
      | d => do pure (some (← index d).toNat)
    let attributes ← linkAttributes (arg 2) (arg 3) (arg 4)
    return .text (withLinks attributes limit (← display value).toList) (← get).escaping
  | "wordcount" => return .int (wordCount (← display value).toList)
  | "wordwrap" =>
    let width ← index (arg 1)
    if width ≤ 0 then
      fail (.value ("invalid width " ++ toString width ++ " (must be > 0)"))
    else
      let breakWords ← truthy (arg 2)
      let hyphens ← truthy (arg 4)
      let ending ← match arg 3 with
        | .null => pure "\n"
        | d => display d
      let (t, safe) ← match value with
        | .text t safe => pure (t, safe)
        | .undefined _ message => fail (.undefined message)
        | d => fail (.attribute d.typeName "splitlines")
      let lines := (Text.lines t.toList).map fun line =>
        Text.joinWith ending.toList (wrapped width.toNat breakWords hyphens line)
      return .text (.ofList (Text.joinWith ending.toList lines)) safe
  | _ =>
    let attributes ← attributesOf value
    let space := if (← truthy (arg 1)) && !attributes.isEmpty then " " else ""
    return .text (space ++ attributes) (← get).escaping
where
  checkRound (d : Datum) : Eval Unit :=
    match d with
    | .undefined .strict message => fail (.undefined message)
    | _ => return ()

private def unknown (sort : String) (name : Datum) : Eval Datum := do
  let base := "No " ++ sort ++ " named " ++ (← quoted name) ++ "."
  match name with
  | .undefined _ message =>
    fail (.templateRuntime (base ++ " (" ++ message
      ++ "; did you forget to quote the callable name?)"))
  | _ => fail (.templateRuntime base)

/-- The answer of a test named by a datum; without a name it is whether the value counts as true. -/
private def chosenTest (name : Option Datum) (args : List Datum) (named : List (String × Datum))
    (d : Datum) : Eval Bool := do
  match name with
  | none => truthy d
  | some (.text test _) =>
    if Test.names.contains test then Test.apply names test ⟨d :: args, named⟩
    else do
      discard (unknown "test" (.plain test))
      return false
  | some other => do
    discard (unknown "test" other)
    return false

/-- The items that pass a test, or those that do not. -/
private def chosen (s : Setting) (name : String) (given : Given) : Eval Datum := do
  let value := given.positional.headD .null
  let args := given.positional.drop 1
  let keep := name == "select" || name == "selectattr"
  if !(← truthy value) then newStream []
  else
    let look : Datum → Eval Datum ←
      if name == "selectattr" || name == "rejectattr" then
        match args with
        | [] => fail (.filterArgument "Missing parameter for attribute name")
        | path :: _ => pure (follow s (pathSteps path) .null)
      else pure fun d => pure d
    let args := if name == "selectattr" || name == "rejectattr" then args.drop 1 else args
    let items ← elements value
    newStream (← items.filterM fun d => do
      return (← chosenTest args.head? (args.drop 1) given.named (← look d)) == keep)

/-- The result of a filter. The fuel bounds how often a filter names another one. -/
def apply (s : Setting) : Nat → String → Given → Eval Datum
  | 0, _, _ => fail .recursion
  | fuel + 1, name, given => do
    match name with
    | "abs" => counted "abs" given absolute
    | "count" | "length" => counted "len" given lengthOf
    | "e" | "escape" =>
      counted "escape" given fun d => do
        match d with
        | .text t true => return .text t true
        | d => return .text (← markup d) true
    | "format" =>
      let (t, safe) ← softText (given.positional.headD .null)
      let args := given.positional.drop 1
      if !args.isEmpty && !given.named.isEmpty then
        fail (.filterArgument
          "can't handle positional and keyword arguments at the same time")
      else if given.named.isEmpty then percent t safe (.tuple args)
      else percent t safe (← newMap (given.named.map fun (k, v) => (.plain k, v)))
    | "map" =>
      let value := given.positional.headD .null
      let args := given.positional.drop 1
      let named := given.named
      if !(← truthy value) then newStream []
      else
        match args, named.lookup "attribute" with
        | [], some path =>
          match named.find? fun (k, _) => k != "attribute" && k != "default" with
          | some (k, _) =>
            fail (.filterArgument ("Unexpected keyword argument " ++ Text.quoted k))
          | none =>
            let default := (named.lookup "default").getD .null
            newStream (← (← elements value).mapM (follow s (pathSteps path) default))
        | [], none => fail (.filterArgument "map requires a filter argument")
        | .text other _ :: more, _ =>
          if names.contains other then
            newStream (← (← elements value).mapM fun d => apply s fuel other ⟨d :: more, named⟩)
          else unknown "filter" (.plain other)
        | other :: _, _ => unknown "filter" other
    | name =>
      if appliers.contains name then chosen s name given
      else
        match signatures.lookup name with
        | some signature => applyPlain s name (← ofResult (signature.arguments given))
        | none => fail (.noSuchFilter name)

end ImagePreload.Template.Filter
