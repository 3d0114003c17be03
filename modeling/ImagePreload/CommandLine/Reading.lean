import ImagePreload.CommandLine.Word
import ImagePreload.Log.Level

/-!
# Reading a command line

The options in front of the command belong to the program, everything behind it to the command.
Words that mean nothing are collected and refused together at the end, unless something else stops
the reading before.
-/

namespace ImagePreload.CommandLine

/-- The options of the whole program. -/
structure Options where
  configFile : Option String := none
  machineOutput : Bool := false
  logLevel : String := "INFO"
  noColor : Bool := false
  kubeconfig : Option String := none

/-- A command that works on a configuration. -/
inductive Command where
  | cleanup
  | images (jobs : List String)
  | preload (jobs : List String)
  | versionInfo
  deriving DecidableEq, Repr

/-- What a command line asks for. -/
inductive Wish where
  | run (options : Options) (command : Command)
  /-- A script for a shell. -/
  | completion (shell : String)
  | help (form : Form)
  /-- No command at all. -/
  | nothing

/-- What stops the reading: a wish for help, or a refusal and the form it is about. -/
inductive Stop where
  | help (form : Form)
  | refused (form : Form) (refusal : Refusal)

abbrev Reading := Except Stop

def refuse {α : Type} (form : Form) (refusal : Refusal) : Reading α :=
  .error (.refused form refusal)

/-- A value that is among the choices. -/
def checkChoice (form : Form) (title : String) (choices : List String) (value : String) :
    Reading Unit :=
  if choices.contains value then .ok () else refuse form (.invalidChoice title value choices)

/-- The options with one more. -/
def Options.take (options : Options) (form : Form) (option : OptionForm) (value : Option String) :
    Reading Options := do
  match option.choices, value with
  | some choices, some v => checkChoice form (Refusal.optionTitle option) choices v
  | _, _ => pure ()
  match option.purpose, value with
  | .help, _ => throw (.help form)
  | .configFile, v => return { options with configFile := v }
  | .machineOutput, _ => return { options with machineOutput := true }
  | .logLevel, some v => return { options with logLevel := v }
  | .logLevel, none => return options
  | .noColor, _ => return { options with noColor := true }
  | .kubeconfig, v => return { options with kubeconfig := v }

def Options.takeAll (options : Options) (form : Form) :
    List (OptionForm × Option String) → Reading Options
  | [] => .ok options
  | (option, value) :: rest => do (← options.take form option value).takeAll form rest

/-- What the option at the front stands for, given the word behind it, and whether that word is its
value. -/
def optionsAt (form : Form) (option : OptionForm) (name : String) (joined : Option String)
    (next : Option Word) : Reading (List (OptionForm × Option String) × Bool) := do
  let parts ←
    match joined with
    | none => pure [(option, none)]
    | some value =>
      match form.expand option (name.startsWith "--") value.toList with
      | .ok parts => pure parts
      | .error e => refuse form e
  match parts.getLast? with
  | some (last, none) =>
    if last.takesValue then
      match next with
      | some ⟨value, .operand⟩ => return (parts.dropLast ++ [(last, some value)], true)
      | _ => refuse form (.valueExpected last)
    else return (parts, false)
  | _ => return (parts, false)

/-- Operands so far: not begun, under way in an unbroken run, or complete. -/
inductive Operands where
  | waiting
  | taking (words : List String)
  | complete (words : List String)

namespace Operands

def words : Operands → List String
  | .waiting => []
  | .taking ws | .complete ws => ws

/-- The operands when an option comes in between. -/
def interrupted : Operands → Operands
  | .taking ws => .complete ws
  | o => o

end Operands

/-- The operands with one more word, or the word back if there is no place for it. `isLast` says
whether the word ends the command line. -/
def takeOperand (form : Form) (operands : OperandForm) (soFar : Operands) (word : Word)
    (isLast : Bool) : Reading (Operands × List String) :=
  let isSeparator := word.sort matches .separator
  match operands, soFar with
  | .none, _ | _, .complete _ => .ok (soFar, [word.text])
  | .names, .waiting => .ok (.taking (if isSeparator then [] else [word.text]), [])
  | .names, .taking ws => .ok (.taking (if isSeparator then ws else ws ++ [word.text]), [])
  | .oneOf title choices, .waiting =>
    if isSeparator then .ok (.waiting, if isLast then [word.text] else [])
    else do
      checkChoice form title choices word.text
      return (.taking [word.text], [])
  | .oneOf .., .taking ws =>
    if isSeparator then .ok (.complete ws, []) else .ok (.complete ws, [word.text])

/-- The operands of a command and the words that mean nothing. -/
def readOperands (form : Form) (operands : OperandForm) (soFar : Operands) :
    List Word → Reading (List String × List String)
  | [] =>
    match operands, soFar with
    | .oneOf title _, .waiting => refuse form (.operandExpected title)
    | _, soFar => .ok (soFar.words, [])
  | word :: rest =>
    match word.sort with
    | .option option name joined => do
      let (parts, _) ← optionsAt form option name joined rest.head?
      let _ ← ({} : Options).takeAll form parts
      readOperands form operands soFar.interrupted rest
    | .unknownOption => do
      let (found, unknown) ← readOperands form operands soFar.interrupted rest
      return (found, word.text :: unknown)
    | _ => do
      let (soFar, left) ← takeOperand form operands soFar word rest.isEmpty
      let (found, unknown) ← readOperands form operands soFar rest
      return (found, left ++ unknown)

/-- A command with its operands. -/
def commandOf (options : Options) (name : CommandName) (operands : List String) : Wish :=
  match name with
  | .cleanup => .run options .cleanup
  | .completion => .completion (operands.headD "")
  | .images => .run options (.images operands)
  | .preload => .run options (.preload operands)
  | .versionInfo => .run options .versionInfo

/-- A command and everything behind it, with the words that mean nothing. -/
def readCommand (options : Options) (word : String) (rest : List String) :
    Reading (Wish × List String) :=
  match CommandName.ofWord? word with
  | none => refuse mainForm (.invalidChoice commandTitle word commandWords)
  | some name => do
    let form := commandForm name
    let (operands, unknown) ← readOperands form (operandsOf name) .waiting (form.words rest)
    return (commandOf options name operands, unknown)

/-- Everything from here on; `skip` says that a word was the value of the option in front of it. -/
def readMain (options : Options) (skip : Bool) : List Word → Reading (Wish × List String)
  | [] => .ok (.nothing, [])
  | word :: rest =>
    if skip then readMain options false rest
    else
      match word.sort with
      | .operand => readCommand options word.text (rest.map (·.text))
      | .separator =>
        if rest.isEmpty then .ok (.nothing, [word.text])
        else refuse mainForm (.invalidChoice commandTitle word.text commandWords)
      | .unknownOption => do
        let (wish, unknown) ← readMain options false rest
        return (wish, word.text :: unknown)
      | .option option name joined => do
        let (parts, used) ← optionsAt mainForm option name joined rest.head?
        readMain (← options.takeAll mainForm parts) used rest

/-- What a command line asks for. -/
def read (arguments : List String) : Reading Wish :=
  match readMain {} false (mainForm.words arguments) with
  | .error (.help form) => .ok (.help form)
  | .error e => .error e
  | .ok (wish, []) => .ok wish
  | .ok (_, unknown) => refuse mainForm (.unrecognized unknown)

end ImagePreload.CommandLine
