import ImagePreload.Config.Rule
import ImagePreload.Duration
import ImagePreload.Text.Digit

/-!
# Validation

A configuration is completed first: defaults are put in and values converted. Then it is compared
with the rules, and everything that breaks one is found, however much it is.
-/

namespace ImagePreload.Config

/-- Something that breaks a rule, and the keys and positions on the way to it. -/
structure Finding where
  path : List Value
  message : String

namespace Finding

/-- The finding as seen from the container at a key. -/
def under (key : Value) (f : Finding) : Finding := { f with path := key :: f.path }

/-- Whether the way to the finding can be written. -/
def isWritable (f : Finding) : Bool := f.path.all fun key => !key.isTooLong

end Finding

/-! ## Completion -/

/-- The converted value, or the value as it is and why it cannot be converted. -/
def Rule.convert (rule : Rule) (key v : Value) : Value × List Finding :=
  match rule.conversion with
  | none => (v, [])
  | some conversion =>
    match conversion.apply v with
    | .ok v => (v, [])
    | .error reason =>
      let isNull := v matches .null
      if rule.nullable && isNull then (v, [])
      else (v, [⟨[], "field '" ++ key.display ++ "' cannot be coerced: " ++ reason⟩])

/-- The default in the place of a null that is not allowed. -/
def Rule.substitute (rule : Rule) (v : Value) : Value :=
  match v, rule.default with
  | .null, some d => if rule.nullable then v else d
  | v, _ => v

mutual

/-- A value at a key, completed by its rule. -/
def Rule.complete (rule : Rule) (key v : Value) : Value × List Finding :=
  match rule with
  | ⟨sort, required, nullable, allowsEmpty, isNumber, isDuration, default, conversion, minimum, keys,
      values, items, fields⟩ =>
    let rule : Rule :=
      ⟨sort, required, nullable, allowsEmpty, isNumber, isDuration, default, conversion, minimum,
        keys, values, items, fields⟩
    let (v, found) := rule.convert key (rule.substitute v)
    match v with
    | .map entries =>
      let (entries, inValues) := completeValues values entries
      let (entries, inFields) := completeFields fields entries
      (.map entries, found ++ inValues ++ inFields)
    | .list vs =>
      let (vs, inItems) := completeItems items 0 vs
      (.list vs, found ++ inItems)
    | .tuple vs =>
      let (vs, inItems) := completeItems items 0 vs
      (.tuple vs, found ++ inItems)
    | v => (v, found)

def completeValues (rule : Option Rule) (entries : Entries) : Entries × List Finding :=
  match rule with
  | none => (entries, [])
  | some rule =>
    entries.foldr (fun (k, v) (done, found) =>
      let (v, more) := rule.complete k v
      ((k, v) :: done, more.map (·.under k) ++ found)) ([], [])

def completeItems (rule : Option Rule) (start : Nat) (vs : List Value) :
    List Value × List Finding :=
  match rule with
  | none => (vs, [])
  | some rule =>
    (vs.zipIdx start).foldr (fun (v, i) (done, found) =>
      let key : Value := .int i
      let (v, more) := rule.complete key v
      (v :: done, more.map (·.under key) ++ found)) ([], [])

def completeFields (rules : Option (List (String × Rule))) (entries : Entries) :
    Entries × List Finding :=
  match rules with
  | none => (entries, [])
  | some rules => completeEach rules entries

/-- Completes the fields that have rules, one after the other. -/
def completeEach (rules : List (String × Rule)) (entries : Entries) : Entries × List Finding :=
  match rules with
  | [] => (entries, [])
  | (name, rule) :: rest =>
    let key : Value := .text name
    let (entries, found) :=
      match entries.get? key, rule.default with
      | some v, _ =>
        let (v, found) := rule.complete key v
        (entries.insert key v, found.map (·.under key))
      | none, some d =>
        let (v, found) := rule.complete key d
        (entries.insert key v, found.map (·.under key))
      | none, none => (entries, [])
    let (entries, more) := completeEach rest entries
    (entries, found ++ more)

end

/-! ## Comparison with the rules -/

/-- The names of the constraints of a rule that are not rules themselves. -/
def Rule.plainConstraints (rule : Rule) : List String :=
  "type" :: if rule.allowsEmpty then [] else ["empty"]

mutual

/-- Whether some mapping stands in the place of a list and has a key that names a constraint of the
rule of the items. Such a mapping is compared with the constraints as if they were rules, and a
plain one cannot be. -/
def Rule.isConfusedBy (rule : Rule) (v : Value) : Bool :=
  match rule with
  | ⟨_, _, _, _, _, _, _, _, _, _, values, items, fields⟩ =>
    match v with
    | .map entries =>
      valueConfuses values entries || fieldConfuses fields entries ||
        match items with
        | none => false
        | some item => item.plainConstraints.any fun name => Entries.contains entries (.text name)
    | .list vs | .tuple vs => itemConfuses items vs
    | _ => false

def valueConfuses (rule : Option Rule) (entries : Entries) : Bool :=
  match rule with
  | none => false
  | some rule => entries.any fun (_, v) => rule.isConfusedBy v

def itemConfuses (rule : Option Rule) (vs : List Value) : Bool :=
  match rule with
  | none => false
  | some rule => vs.any rule.isConfusedBy

def fieldConfuses (rules : Option (List (String × Rule))) (entries : Entries) : Bool :=
  match rules with
  | none => false
  | some rules => eachConfuses rules entries

def eachConfuses (rules : List (String × Rule)) (entries : Entries) : Bool :=
  match rules with
  | [] => false
  | (name, rule) :: rest =>
    ((entries.get? (.text name)).any rule.isConfusedBy) || eachConfuses rest entries

end

/-- Whether a value has a length, and that is zero. -/
def isEmptyValue : Value → Bool
  | .text s => s.isEmpty
  | .bytes data => data.isEmpty
  | .list vs | .tuple vs | .set vs => vs.isEmpty
  | .map entries => entries.isEmpty
  | _ => false

/-- Whether a text is a row of decimal digits, a line end behind them not counted. -/
def isNumeral (s : String) : Bool :=
  let cs := s.toList
  let cs := if cs.getLast? == some '\n' then cs.dropLast else cs
  !cs.isEmpty && cs.all Text.isDecimalDigit

/-- A finding about a value itself. -/
def broken (message : String) : Finding := ⟨[], message⟩

/-- What is wrong with a value of the right sort, not counting what is inside it. -/
def Rule.flaws (rule : Rule) (v : Value) : List Finding :=
  let emptiness :=
    if isEmptyValue v && !rule.allowsEmpty then [broken "empty values not allowed"] else []
  let number :=
    match rule.isNumber, v with
    | true, .text s =>
      if (s.isEmpty && !rule.allowsEmpty) || isNumeral s then []
      else [broken "value does not match regex '\\d+'"]
    | _, _ => []
  let smallness :=
    match rule.minimum, v.number? with
    | some least, some n =>
      if n.less (.int least) then [broken ("min value is " ++ toString least)] else []
    | _, _ => []
  let duration :=
    match rule.isDuration, v with
    | true, .text s =>
      if s.isEmpty && !rule.allowsEmpty then []
      else
        match parseDuration s with
        | .ok _ => []
        | .error e => [broken e.message]
    | _, _ => []
  emptiness ++ number ++ smallness ++ duration

mutual

/-- Everything in a value that breaks its rule. -/
def Rule.findings (rule : Rule) (v : Value) : List Finding :=
  match rule with
  | ⟨sort, required, nullable, allowsEmpty, isNumber, isDuration, default, conversion, minimum, keys,
      values, items, fields⟩ =>
    let rule : Rule :=
      ⟨sort, required, nullable, allowsEmpty, isNumber, isDuration, default, conversion, minimum,
        keys, values, items, fields⟩
    match v with
    | .null => if nullable then [] else [broken "null value not allowed"]
    | v =>
      if !sort.holds v then [broken ("must be of " ++ sort.name ++ " type")]
      else
        rule.flaws v ++
          match v with
          | .map entries =>
            keyFindings keys entries ++ valueFindings values entries ++ fieldFindings fields entries
          | .list vs | .tuple vs => itemFindings items vs
          | .bytes data => itemFindings items (data.map fun b => .int b.toNat)
          | _ => []

def keyFindings (rule : Option Rule) (entries : Entries) : List Finding :=
  match rule with
  | none => []
  | some rule => entries.flatMap fun (k, _) => (rule.findings k).map (·.under k)

def valueFindings (rule : Option Rule) (entries : Entries) : List Finding :=
  match rule with
  | none => []
  | some rule => entries.flatMap fun (k, v) => (rule.findings v).map (·.under k)

def itemFindings (rule : Option Rule) (vs : List Value) : List Finding :=
  match rule with
  | none => []
  | some rule => vs.zipIdx.flatMap fun (v, i) => (rule.findings v).map (·.under (.int i))

def fieldFindings (rules : Option (List (String × Rule))) (entries : Entries) : List Finding :=
  match rules with
  | none => []
  | some rules =>
    let unknown := entries.filter fun (k, _) =>
      match k with
      | .text name => (rules.lookup name).isNone
      | _ => true
    unknown.map (fun (k, _) => ⟨[k], "unknown field"⟩) ++ findingsOfEach rules entries

/-- What is wrong with the fields that have rules. -/
def findingsOfEach (rules : List (String × Rule)) (entries : Entries) : List Finding :=
  match rules with
  | [] => []
  | (name, rule) :: rest =>
    let key : Value := .text name
    let here :=
      match entries.get? key with
      | some v => rule.findings v
      | none => if rule.required then [broken "required field"] else []
    here.map (·.under key) ++ findingsOfEach rest entries

end

/-- A completed value and everything that is wrong with it. -/
def Rule.validate (rule : Rule) (key v : Value) : Value × List Finding :=
  let (v, found) := rule.complete key v
  (v, (found ++ rule.findings v).map (·.under key))

/-! ## Findings as a tree -/

/-- Whether findings under two keys belong together: the keys are equal, or shown alike if the first
one does not even equal itself. -/
private def belongTogether (k k' : Value) : Bool :=
  k.same k' || (!k.same k && k.quoted == k'.quoted)

def distinctHeads : List Finding → List Value
  | [] => []
  | f :: fs =>
    match f.path with
    | [] => distinctHeads fs
    | k :: _ =>
      let rest := distinctHeads fs
      k :: rest.filter fun k' => !belongTogether k k'

/-- What was found, under the first key of its path: messages, and a mapping with what is further
inside. -/
def treeOf : Nat → List Finding → Entries
  | 0, _ => []
  | depth + 1, found =>
    (distinctHeads found).map fun key =>
      let here := found.filterMap fun f =>
        match f.path with
        | [k] => if belongTogether k key then some (Value.text f.message) else none
        | _ => none
      let inside := found.filterMap fun f =>
        match f.path with
        | k :: more@(_ :: _) => if belongTogether k key then some { f with path := more } else none
        | _ => none
      (key, .list (here ++ if inside.isEmpty then [] else [.map (treeOf depth inside)]))

/-- The tree of everything that was found. -/
def errorTree (found : List Finding) : Value :=
  .map (treeOf (found.foldl (fun n f => max n f.path.length) 0) found)

/-- Lines that tell of something, and whether they tell all of it. -/
structure Account where
  lines : List String
  isWhole : Bool
  deriving DecidableEq, Repr

namespace Account

/-- The account of nothing. -/
def empty : Account := ⟨[], true⟩

/-- An account that breaks off, in front of what cannot be written. -/
def brokenOff : Account := ⟨[], false⟩

def line (text : String) : Account := ⟨[text], true⟩

/-- An account and another one behind it, unless the first one breaks off. -/
def followedBy (a b : Account) : Account :=
  if a.isWhole then ⟨a.lines ++ b.lines, b.isWhole⟩ else a

end Account

mutual

/-- Tells what is in a tree of messages, each with the way to it. -/
def account (path : String) : Value → Account
  | .map entries => accountOfEntries path entries
  | .list items => accountOfItems path items
  | _ => .empty

def accountOfItems (path : String) : List Value → Account
  | [] => .empty
  | .map entries :: rest => (accountOfEntries path entries).followedBy (accountOfItems path rest)
  | v :: rest =>
    if v.isTooLong then .brokenOff
    else (Account.line ("  " ++ path ++ ": " ++ v.display)).followedBy (accountOfItems path rest)

def accountOfEntries (path : String) : List (Value × Value) → Account
  | [] => .empty
  | (k, v) :: rest =>
    if k.isTooLong then .brokenOff
    else
      (account (path ++ (if path.isEmpty then "" else ".") ++ k.display) v).followedBy
        (accountOfEntries path rest)

end

/-- The lines that tell what is in a tree of messages, up to a key that cannot be written. -/
def errorLines (path : String) (errors : Value) : List String := (account path errors).lines

end ImagePreload.Config
