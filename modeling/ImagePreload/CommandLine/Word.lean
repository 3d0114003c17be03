import ImagePreload.CommandLine.Grammar
import ImagePreload.Text.Digit
import ImagePreload.Text.Quoted
import ImagePreload.Text.Search

/-!
# Words of a command line

Every word is an option, an operand or the separator behind which everything is an operand. A word
that starts with a hyphen is an option, known or not, unless it is a negative number or holds a
blank. A value may be joined to a long name by an equals sign and to a short one directly; short
options without values may be joined to each other.
-/

namespace ImagePreload.CommandLine

/-- What stops the reading of a command line. -/
inductive Refusal where
  | valueExpected (option : OptionForm)
  | valueIgnored (option : OptionForm) (value : String)
  | invalidChoice (title : String) (word : String) (choices : List String)
  | operandExpected (title : String)
  /-- Words that mean nothing. -/
  | unrecognized (words : List String)

namespace Refusal

def optionTitle (option : OptionForm) : String := "/".intercalate option.names

def about (title message : String) : String := "argument " ++ title ++ ": " ++ message

def message : Refusal → String
  | .valueExpected option => about (optionTitle option) "expected one argument"
  | .valueIgnored option value =>
    about (optionTitle option) ("ignored explicit argument " ++ Text.quoted value)
  | .invalidChoice title word choices =>
    about title ("invalid choice: " ++ Text.quoted word ++ " (choose from "
      ++ ", ".intercalate (choices.map Text.quoted) ++ ")")
  | .operandExpected title => "the following arguments are required: " ++ title
  | .unrecognized words => "unrecognized arguments: " ++ " ".intercalate words

end Refusal

/-- The sort of a word. -/
inductive WordSort where
  /-- An option by one of its names, and what is joined to it. -/
  | option (form : OptionForm) (name : String) (joined : Option String)
  | unknownOption
  | operand
  | separator

/-- A word and what it is. -/
structure Word where
  text : String
  sort : WordSort

namespace Form

def option? (form : Form) (name : String) : Option OptionForm :=
  form.options.find? (·.names.contains name)

/-- The option whose long name begins with a text. -/
def abbreviated? (form : Form) (start : String) : Option (OptionForm × String) :=
  form.options.findSome? fun option =>
    (option.names.find? fun name => name.startsWith start).map fun name => (option, name)

/-- A word before and behind its first equals sign. -/
def splitValue (word : String) : String × Option String :=
  match Text.breakAt? ['='] word.toList with
  | some (name, value) => (.ofList name, some (.ofList value))
  | none => (word, none)

/-- Whether a word is a number below zero. -/
def isNegativeNumber (word : String) : Bool :=
  match word.toList with
  | '-' :: cs =>
    let whole := cs.takeWhile Text.isDecimalDigit
    match cs.dropWhile Text.isDecimalDigit with
    | [] => !whole.isEmpty
    | '.' :: rest => !rest.isEmpty && rest.all Text.isDecimalDigit
    | _ => false
  | _ => false

/-- What a word that is no option by its name may still be. -/
def sortUnnamed (form : Form) (word : String) : WordSort :=
  let (name, value) := splitValue word
  let matched : Option WordSort :=
    if value.isSome && (form.option? name).isSome then
      (form.option? name).map fun option => .option option name value
    else if word.startsWith "--" then
      if form.abbreviates then
        (form.abbreviated? name).map fun (option, name) => .option option name value
      else none
    else
      let short := (word.take 2).toString
      (form.option? short).map fun option => .option option short (some (word.drop 2).toString)
  match matched with
  | some sort => sort
  | none =>
    if isNegativeNumber word || word.toList.contains ' ' then .operand else .unknownOption

/-- The sort of a word in front of the separator. -/
def sortOf (form : Form) (word : String) : WordSort :=
  match form.option? word with
  | some option => .option option word none
  | none =>
    if word.length < 2 || !word.startsWith "-" then .operand
    else sortUnnamed form word

/-- The words with their sorts. -/
def words (form : Form) : List String → List Word
  | [] => []
  | word :: rest =>
    if word == "--" then ⟨word, .separator⟩ :: rest.map (⟨·, .operand⟩)
    else ⟨word, form.sortOf word⟩ :: words form rest

/-- The options that a name and what is joined to it stand for, each with its value. The last one
may still lack its value. -/
def expand (form : Form) (option : OptionForm) (long : Bool) :
    List Char → Except Refusal (List (OptionForm × Option String))
  | [] =>
    if option.takesValue then .ok [(option, some "")] else .error (.valueIgnored option "")
  | c :: cs =>
    if option.takesValue then .ok [(option, some (.ofList (c :: cs)))]
    else if long then .error (.valueIgnored option (.ofList (c :: cs)))
    else
      match form.option? (.ofList ['-', c]) with
      | none => .error (.valueIgnored option (.ofList (c :: cs)))
      | some next =>
        match cs with
        | [] => .ok [(option, none), (next, none)]
        | _ => do return (option, none) :: (← expand form next false cs)

end Form

end ImagePreload.CommandLine
