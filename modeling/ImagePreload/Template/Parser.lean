import ImagePreload.Template.Ast
import ImagePreload.Template.Token
import ImagePreload.Text.Lines

/-!
# From tokens to the tree

The grammar of expressions, from the loosest to the tightest: a conditional, `or`, `and`, `not`,
comparisons, sums, concatenation, products, powers, signs, and behind those the postfix forms and
filters. Powers group to the left.
-/

namespace ImagePreload.Template

abbrev Parser := StateT (List Token) Parsed

namespace Parser

def fail {α : Type} : Parser α := fun _ => .error .malformed

def peek : Parser (Option Token) := return (← get).head?

def peekSecond : Parser (Option Token) := return (← get)[1]?

def drop : Parser Unit := modify (·.drop 1)

def isOp (s : String) : Option Token → Bool
  | some (.op t) => s == t
  | _ => false

def isName (s : String) : Option Token → Bool
  | some (.name t) => s == t
  | _ => false

def atOp (s : String) : Parser Bool := return isOp s (← peek)

def atName (s : String) : Parser Bool := return isName s (← peek)

def takeOp? (s : String) : Parser Bool := do
  if ← atOp s then
    drop
    return true
  else return false

def takeName? (s : String) : Parser Bool := do
  if ← atName s then
    drop
    return true
  else return false

def expectOp (s : String) : Parser Unit := do
  if !(← takeOp? s) then fail

def expectName : Parser String := do
  match ← peek with
  | some (.name s) =>
    drop
    return s
  | _ => fail

def expectTagEnd : Parser Unit := do
  match ← peek with
  | some .tagEnd => drop
  | _ => fail

def expectOutputEnd : Parser Unit := do
  match ← peek with
  | some .outputEnd => drop
  | _ => fail

def atTagEnd : Parser Bool := do
  match ← peek with
  | some .tagEnd => return true
  | _ => return false

/-- Names that are values and cannot be bound. -/
def literalNames : List String := ["true", "false", "none", "True", "False", "None"]

def nameExpr (s : String) : Expr :=
  if s == "true" || s == "True" then .literal (.bool true)
  else if s == "false" || s == "False" then .literal (.bool false)
  else if s == "none" || s == "None" then .literal .none
  else .name s

/-- Whether a row of expressions between commas ends here: at the end of the tag, at a closing
parenthesis, or at one of the given words. -/
def atRowEnd (words : List String) : Parser Bool := do
  match ← peek with
  | some .outputEnd | some .tagEnd => return true
  | some (.op s) => return s == ")"
  | some (.name s) => return words.contains s
  | _ => return false

/-- The arguments of a call. -/
structure Arguments where
  positional : List Expr
  named : List (String × Expr)
  morePositional : Option Expr
  moreNamed : Option Expr

def Arguments.none : Arguments := ⟨[], [], Option.none, Option.none⟩

/-- Adjacent texts are one text. -/
def takeTexts : Nat → Parser String
  | 0 => fail
  | fuel + 1 => do
    match ← peek with
    | some (.text s) =>
      drop
      return s ++ (← takeTexts fuel)
    | _ => return ""

def compareOp? : Token → Option CompareOp
  | .op "==" => some .eq
  | .op "!=" => some .ne
  | .op "<" => some .lt
  | .op "<=" => some .le
  | .op ">" => some .gt
  | .op ">=" => some .ge
  | _ => none

/-- Names that a test's single argument without parentheses cannot start with. -/
def endsTest (s : String) : Bool := s == "else" || s == "or" || s == "and"

/-- A name with points in it. -/
def dottedName : Nat → String → Parser String
  | 0, _ => fail
  | fuel + 1, s => do
    if ← takeOp? "." then dottedName fuel (s ++ "." ++ (← expectName)) else return s

mutual

def expression : Nat → Parser Expr
  | 0 => fail
  | fuel + 1 => do
    let first ← disjunction fuel
    conditionals fuel first

def conditionals : Nat → Expr → Parser Expr
  | 0, _ => fail
  | fuel + 1, first => do
    if ← takeName? "if" then
      let test ← disjunction fuel
      let otherwise ← if ← takeName? "else" then some <$> expression fuel else pure none
      conditionals fuel (.conditional test first otherwise)
    else return first

def disjunction : Nat → Parser Expr
  | 0 => fail
  | fuel + 1 => do
    let first ← conjunction fuel
    disjunctionFrom fuel first

def disjunctionFrom : Nat → Expr → Parser Expr
  | 0, _ => fail
  | fuel + 1, left => do
    if ← takeName? "or" then
      let right ← conjunction fuel
      disjunctionFrom fuel (.or left right)
    else return left

def conjunction : Nat → Parser Expr
  | 0 => fail
  | fuel + 1 => do
    let first ← negation fuel
    conjunctionFrom fuel first

def conjunctionFrom : Nat → Expr → Parser Expr
  | 0, _ => fail
  | fuel + 1, left => do
    if ← takeName? "and" then
      let right ← negation fuel
      conjunctionFrom fuel (.and left right)
    else return left

def negation : Nat → Parser Expr
  | 0 => fail
  | fuel + 1 => do
    if ← takeName? "not" then return .unary .not (← negation fuel)
    else
      let first ← sum fuel
      match ← comparisons fuel with
      | [] => return first
      | rest => return .compare first rest

def comparisons : Nat → Parser (List (CompareOp × Expr))
  | 0 => fail
  | fuel + 1 => do
    match (← peek).bind compareOp? with
    | some op =>
      drop
      let right ← sum fuel
      return (op, right) :: (← comparisons fuel)
    | none =>
      if ← takeName? "in" then
        let right ← sum fuel
        return (.isIn, right) :: (← comparisons fuel)
      else if (← atName "not") && isName "in" (← peekSecond) then
        drop
        drop
        let right ← sum fuel
        return (.notIn, right) :: (← comparisons fuel)
      else return []

def sum : Nat → Parser Expr
  | 0 => fail
  | fuel + 1 => do
    let first ← concatenation fuel
    sumFrom fuel first

def sumFrom : Nat → Expr → Parser Expr
  | 0, _ => fail
  | fuel + 1, left => do
    if ← takeOp? "+" then
      let right ← concatenation fuel
      sumFrom fuel (.binary .add left right)
    else if ← takeOp? "-" then
      let right ← concatenation fuel
      sumFrom fuel (.binary .sub left right)
    else return left

def concatenation : Nat → Parser Expr
  | 0 => fail
  | fuel + 1 => do
    let first ← product fuel
    match ← concatenated fuel with
    | [] => return first
    | rest => return .concat (first :: rest)

def concatenated : Nat → Parser (List Expr)
  | 0 => fail
  | fuel + 1 => do
    if ← takeOp? "~" then
      let part ← product fuel
      return part :: (← concatenated fuel)
    else return []

def product : Nat → Parser Expr
  | 0 => fail
  | fuel + 1 => do
    let first ← power fuel
    productFrom fuel first

def productFrom : Nat → Expr → Parser Expr
  | 0, _ => fail
  | fuel + 1, left => do
    let op? : Option BinaryOp :=
      match ← peek with
      | some (.op "*") => some .mul
      | some (.op "/") => some .div
      | some (.op "//") => some .floorDiv
      | some (.op "%") => some .mod
      | _ => none
    match op? with
    | some op =>
      drop
      let right ← power fuel
      productFrom fuel (.binary op left right)
    | none => return left

def power : Nat → Parser Expr
  | 0 => fail
  | fuel + 1 => do
    let first ← unary fuel true
    powerFrom fuel first

def powerFrom : Nat → Expr → Parser Expr
  | 0, _ => fail
  | fuel + 1, left => do
    if ← takeOp? "**" then
      let right ← unary fuel true
      powerFrom fuel (.binary .pow left right)
    else return left

/-- A signed operand with the forms that may stand behind it. -/
def unary : Nat → Bool → Parser Expr
  | 0, _ => fail
  | fuel + 1, filters => do
    let e ←
      if ← takeOp? "-" then Expr.unary .negate <$> unary fuel false
      else if ← takeOp? "+" then Expr.unary .plus <$> unary fuel false
      else primary fuel
    let e ← postfixes fuel e
    if filters then filtersAndTests fuel e else return e

def primary : Nat → Parser Expr
  | 0 => fail
  | fuel + 1 => do
    match ← peek with
    | some (.name s) =>
      drop
      return nameExpr s
    | some (.text _) => return .literal (.text (← takeTexts (fuel + 1)))
    | some (.int n) =>
      drop
      return .literal (.int n)
    | some (.float x) =>
      drop
      return .literal (.float x)
    | some (.op "(") =>
      drop
      let e ← row fuel true true []
      expectOp ")"
      return e
    | some (.op "[") =>
      drop
      return .list (← listItems fuel true)
    | some (.op "\x7b") =>
      drop
      return .dict (← dictEntries fuel true)
    | _ => fail

/-- Expressions between commas: one alone stands for itself, several make a tuple. -/
def row (fuel : Nat) (conditional parenthesised : Bool) (words : List String) : Parser Expr :=
  match fuel with
  | 0 => fail
  | fuel + 1 => do
    let (items, comma) ← rowItems fuel conditional words
    match items, comma with
    | [e], false => return e
    | [], false => if parenthesised then return .tuple [] else fail
    | items, _ => return .tuple items

/-- The items of a row and whether there was a comma. -/
def rowItems (fuel : Nat) (conditional : Bool) (words : List String) :
    Parser (List Expr × Bool) :=
  match fuel with
  | 0 => fail
  | fuel + 1 => do
    if ← atRowEnd words then return ([], false)
    else
      let e ← if conditional then expression fuel else disjunction fuel
      if ← takeOp? "," then
        let (rest, _) ← rowItems fuel conditional words
        return (e :: rest, true)
      else return ([e], false)

def listItems : Nat → Bool → Parser (List Expr)
  | 0, _ => fail
  | fuel + 1, first => do
    if ← takeOp? "]" then return []
    else
      if !first then expectOp ","
      if ← takeOp? "]" then return []
      else
        let e ← expression fuel
        return e :: (← listItems fuel false)

def dictEntries : Nat → Bool → Parser (List (Expr × Expr))
  | 0, _ => fail
  | fuel + 1, first => do
    if ← takeOp? "\x7d" then return []
    else
      if !first then expectOp ","
      if ← takeOp? "\x7d" then return []
      else
        let key ← expression fuel
        expectOp ":"
        let value ← expression fuel
        return (key, value) :: (← dictEntries fuel false)

/-- Attributes, items and calls behind an operand. -/
def postfixes : Nat → Expr → Parser Expr
  | 0, _ => fail
  | fuel + 1, e => do
    if ← takeOp? "." then
      match ← peek with
      | some (.name s) =>
        drop
        postfixes fuel (.attribute e s)
      | some (.int n) =>
        drop
        postfixes fuel (.item e (.literal (.int n)))
      | _ => fail
    else if ← takeOp? "[" then
      match ← subscripts fuel true with
      | [index] => postfixes fuel (.item e index)
      | indices => postfixes fuel (.item e (.tuple indices))
    else if ← atOp "(" then
      let args ← arguments fuel
      postfixes fuel
        (.call e args.positional args.named args.morePositional args.moreNamed)
    else return e

def subscripts : Nat → Bool → Parser (List Expr)
  | 0, _ => fail
  | fuel + 1, first => do
    if ← takeOp? "]" then return []
    else
      if !first then expectOp ","
      let e ← subscript fuel
      return e :: (← subscripts fuel false)

/-- An index or a slice. -/
def subscript : Nat → Parser Expr
  | 0 => fail
  | fuel + 1 => do
    let start ← if ← atOp ":" then pure none else some <$> expression fuel
    match start, ← takeOp? ":" with
    | some e, false => return e
    | _, _ =>
      let stop ← sliceEnd fuel
      let step ← if ← takeOp? ":" then sliceEnd fuel else pure none
      return .slice start stop step

def sliceEnd : Nat → Parser (Option Expr)
  | 0 => fail
  | fuel + 1 => do
    if (← atOp ":") || (← atOp "]") || (← atOp ",") then return none
    else some <$> expression fuel

def arguments : Nat → Parser Arguments
  | 0 => fail
  | fuel + 1 => do
    expectOp "("
    argumentsFrom fuel true .none

def argumentsFrom : Nat → Bool → Arguments → Parser Arguments
  | 0, _, _ => fail
  | fuel + 1, first, args => do
    if ← takeOp? ")" then return args
    else
      if !first then expectOp ","
      if ← takeOp? ")" then return args
      else if ← takeOp? "*" then
        if args.morePositional.isSome || args.moreNamed.isSome then fail
        else
          let e ← expression fuel
          argumentsFrom fuel false { args with morePositional := some e }
      else if ← takeOp? "**" then
        if args.moreNamed.isSome then fail
        else
          let e ← expression fuel
          argumentsFrom fuel false { args with moreNamed := some e }
      else
        match ← peek, isOp "=" (← peekSecond) with
        | some (.name s), true =>
          if args.moreNamed.isSome then fail
          else
            drop
            drop
            let e ← expression fuel
            argumentsFrom fuel false { args with named := args.named ++ [(s, e)] }
        | _, _ =>
          if args.morePositional.isSome || args.moreNamed.isSome || !args.named.isEmpty then fail
          else
            let e ← expression fuel
            argumentsFrom fuel false { args with positional := args.positional ++ [e] }

def filtersAndTests : Nat → Expr → Parser Expr
  | 0, _ => fail
  | fuel + 1, e => do
    if ← takeOp? "|" then
      let e ← filterOf fuel e
      filtersAndTests fuel e
    else if ← takeName? "is" then
      let e ← testOf fuel e
      filtersAndTests fuel e
    else if ← atOp "(" then
      let args ← arguments fuel
      filtersAndTests fuel (.call e args.positional args.named args.morePositional args.moreNamed)
    else return e

/-- A filter from its name on. -/
def filterOf : Nat → Expr → Parser Expr
  | 0, _ => fail
  | fuel + 1, e => do
    let name ← dottedName (fuel + 1) (← expectName)
    let args ← if ← atOp "(" then arguments fuel else pure .none
    return .filter name e args.positional args.named args.morePositional args.moreNamed

/-- Filters in a row, from the name of the first one on. -/
def filterRow : Nat → Expr → Parser Expr
  | 0, _ => fail
  | fuel + 1, e => do
    let e ← filterOf fuel e
    if ← takeOp? "|" then filterRow fuel e else return e

def testOf : Nat → Expr → Parser Expr
  | 0, _ => fail
  | fuel + 1, e => do
    let negated ← takeName? "not"
    let name ← dottedName (fuel + 1) (← expectName)
    let args ←
      if ← atOp "(" then arguments fuel
      else if ← startsArgument then
        let arg ← primary fuel
        let arg ← postfixes fuel arg
        pure { Arguments.none with positional := [arg] }
      else pure .none
    let e := Expr.test name e args.positional args.named args.morePositional args.moreNamed
    return if negated then .unary .not e else e

/-- Whether an argument without parentheses starts here. -/
def startsArgument : Parser Bool := do
  match ← peek with
  | some (.name s) => if s == "is" then fail else return !endsTest s
  | some (.text _) | some (.int _) | some (.float _) => return true
  | some (.op s) => return s == "[" || s == "\x7b"
  | _ => return false

end

/-! ## Targets -/

/-- What an expression binds when it stands where a target is wanted. -/
def target? : Expr → Option Target
  | .name s => some (.name s)
  | .tuple items => (parts items).map .tuple
  | _ => none
where
  parts : List Expr → Option (List Target)
    | [] => some []
    | e :: es => do
      let t ← target? e
      let ts ← parts es
      return t :: ts

def bindable (s : String) : Parser String :=
  if literalNames.contains s then fail else return s

def targetName : Parser String := do bindable (← expectName)

/-- Targets between commas. -/
def targetRow (fuel : Nat) (words : List String) : Parser (List Expr × Bool) :=
  match fuel with
  | 0 => fail
  | fuel + 1 => do
    if ← atRowEnd words then return ([], false)
    else
      let e ← primary fuel
      if ← takeOp? "," then
        let (rest, _) ← targetRow fuel words
        return (e :: rest, true)
      else return ([e], false)

def target (fuel : Nat) (words : List String) : Parser Target := do
  let (items, comma) ← targetRow fuel words
  let e ←
    match items, comma with
    | [e], false => pure e
    | [], false => fail
    | items, _ => pure (.tuple items)
  match target? e with
  | some t => return t
  | none => fail

/-! ## Statements -/

def parameters : Nat → Bool → Bool → Parser Parameters
  | 0, _, _ => fail
  | fuel + 1, first, defaults => do
    if ← takeOp? ")" then return []
    else
      if !first then expectOp ","
      let name ← targetName
      if ← takeOp? "=" then
        let e ← expression fuel
        return (name, some e) :: (← parameters fuel false true)
      else if defaults then fail
      else return (name, none) :: (← parameters fuel false false)

def bindings : Nat → Bool → Parser (List (Target × Expr))
  | 0, _ => fail
  | fuel + 1, first => do
    if ← atTagEnd then return []
    else
      if !first then expectOp ","
      let t ← target fuel []
      expectOp "="
      let e ← expression fuel
      return (t, e) :: (← bindings fuel false)

def outputs : Nat → Bool → Parser (List Expr)
  | 0, _ => fail
  | fuel + 1, first => do
    if ← atTagEnd then return []
    else
      if !first then expectOp ","
      let e ← expression fuel
      return e :: (← outputs fuel false)

/-- An optional phrase on which names a referenced template would see. -/
def contextPhrase : Parser Bool := do
  if ((← atName "with") || (← atName "without")) && isName "context" (← peekSecond) then
    drop
    drop
    return true
  else return false

def importedNames : Nat → Bool → Parser Unit
  | 0, _ => fail
  | fuel + 1, first => do
    if !first then expectOp ","
    match ← peek with
    | some (.name _) =>
      if ← contextPhrase then return ()
      else
        let name ← targetName
        if name.startsWith "_" then fun _ => .error .rejected
        else
          if ← takeName? "as" then discard targetName
          if (← contextPhrase) || !(← atOp ",") then return () else importedNames fuel false
    | _ => fail

/-- Whether a body that must hold no more than blanks and comments does. -/
def isBlankBody : List Stmt → Bool
  | [] => true
  | .text s :: rest => s.toList.all Text.isBlank && isBlankBody rest
  | _ :: _ => false

mutual

/-- Statements up to one of the given words, or to the end of the template without any. The word
itself is taken. -/
def statements (words : List String) : Nat → Parser (List Stmt × String)
  | 0 => fail
  | fuel + 1 => do
    match ← peek with
    | none => if words.isEmpty then return ([], "") else fail
    | some (.data s) =>
      drop
      let (rest, word) ← statements words fuel
      return (.text s :: rest, word)
    | some .outputStart =>
      drop
      let e ← row fuel true false []
      expectOutputEnd
      let (rest, word) ← statements words fuel
      return (.output e :: rest, word)
    | some .tagStart =>
      drop
      match ← peek with
      | some (.name s) =>
        drop
        if words.contains s then return ([], s)
        else
          let here ← statement s fuel
          expectTagEnd
          let (rest, word) ← statements words fuel
          return (here ++ rest, word)
      | _ => fail
    | some _ => fail

/-- The body of a statement, up to one of the given words. -/
def body (words : List String) : Nat → Parser (List Stmt × String)
  | 0 => fail
  | fuel + 1 => do
    discard (takeOp? ":")
    expectTagEnd
    statements words fuel

/-- A statement from behind its first word. -/
def statement (word : String) : Nat → Parser (List Stmt)
  | 0 => fail
  | fuel + 1 => do
    match word with
    | "for" =>
      let t ← target fuel ["in"]
      if !(← takeName? "in") then fail
      let items ← row fuel false false ["recursive"]
      let test ← if ← takeName? "if" then some <$> expression fuel else pure none
      let recursive ← takeName? "recursive"
      let (inner, word) ← body ["endfor", "else"] fuel
      let (otherwise, _) ← if word == "else" then body ["endfor"] fuel else pure ([], "")
      return [.loop t items test recursive inner otherwise]
    | "if" =>
      let (branches, otherwise) ← conditionBranches fuel
      return [.cond branches otherwise]
    | "block" =>
      let name ← expectName
      let seesLocals ← takeName? "scoped"
      let required ← takeName? "required"
      let (inner, _) ← body ["endblock"] fuel
      if required && !isBlankBody inner then fail
      discard (takeName? name)
      return [.block name seesLocals required inner]
    | "extends" => return [.reference (← expression fuel) false]
    | "print" => return (← outputs fuel true).map .output
    | "macro" =>
      let name ← targetName
      expectOp "("
      let params ← parameters fuel true false
      let (inner, _) ← body ["endmacro"] fuel
      return [.definition name params inner]
    | "include" =>
      let e ← expression fuel
      if (← atName "ignore") && isName "missing" (← peekSecond) then
        drop
        drop
      discard contextPhrase
      return [.reference e true]
    | "import" =>
      let e ← expression fuel
      if !(← takeName? "as") then fail
      discard targetName
      discard contextPhrase
      return [.reference e false]
    | "from" =>
      let e ← expression fuel
      if !(← takeName? "import") then fail
      importedNames fuel true
      return [.reference e false]
    | "set" =>
      let t ← setTarget fuel
      if ← takeOp? "=" then return [.assign t (← row fuel true false [])]
      else
        let filter ← if ← takeOp? "|" then some <$> filterRow fuel .body else pure none
        let (inner, _) ← body ["endset"] fuel
        return [.capture t filter inner]
    | "with" =>
      let bs ← bindings fuel true
      let (inner, _) ← body ["endwith"] fuel
      return [.bind bs inner]
    | "autoescape" =>
      let mode ← expression fuel
      let (inner, _) ← body ["endautoescape"] fuel
      return [.escaping mode inner]
    | "call" =>
      let params ← if ← takeOp? "(" then parameters fuel true false else pure []
      let call ← expression fuel
      match call with
      | .call .. =>
        let (inner, _) ← body ["endcall"] fuel
        return [.callBlock call params inner]
      | _ => fail
    | "filter" =>
      let filter ← filterRow fuel .body
      let (inner, _) ← body ["endfilter"] fuel
      return [.filterBlock filter inner]
    | _ => fail

/-- What an assignment statement binds; it may be a field of an object. -/
def setTarget : Nat → Parser Target
  | 0 => fail
  | fuel + 1 => do
    match ← peek, isOp "." (← peekSecond) with
    | some (.name s), true =>
      drop
      drop
      return .field s (← expectName)
    | _, _ => target fuel []

/-- The branches of a condition. -/
def conditionBranches : Nat → Parser (List (Expr × List Stmt) × List Stmt)
  | 0 => fail
  | fuel + 1 => do
    let test ← row fuel false false []
    let (inner, word) ← body ["elif", "else", "endif"] fuel
    if word == "elif" then
      let (branches, otherwise) ← conditionBranches fuel
      return ((test, inner) :: branches, otherwise)
    else if word == "else" then
      let (otherwise, _) ← body ["endif"] fuel
      return ([(test, inner)], otherwise)
    else return ([(test, inner)], [])

end

end Parser

/-- The tree of a template. -/
def parse (source : List Char) : Parsed (List Stmt) := do
  let tokens ← scan (Text.unifyLineEnds source)
  let ((stmts, _), _) ← (Parser.statements [] (16 * tokens.length + 64)).run tokens
  return stmts

end ImagePreload.Template
