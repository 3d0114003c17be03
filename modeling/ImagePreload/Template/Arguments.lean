import ImagePreload.Template.Operators

/-!
# Arguments of calls

A function written with named parameters takes its arguments by position or by name. The functions
that come with a sort of value take a count of arguments, mostly by position only; they differ in
how they say that the count is wrong.
-/

namespace ImagePreload.Template

/-- The arguments of a call. -/
structure Given where
  positional : List Datum
  named : List (String × Datum)

/-- Parameters of a function: those that must be given and those with a default. -/
structure Signature where
  name : String
  required : List String
  optional : List (String × Datum)
  /-- How many parameters in front are always given. -/
  hidden : Nat := 0

namespace Signature

def parameters (s : Signature) : List String := s.required ++ s.optional.map (·.1)

/-- What the parameters stand for in a call, in their order. -/
def arguments (s : Signature) (given : Given) : Except TemplateError (List Datum) := do
  let fault (f : CallFault) : TemplateError := .call s.name f
  for (name, _) in given.named do
    match s.parameters.idxOf? name with
    | none => throw (fault (.unexpected name))
    | some i => if i < given.positional.length then throw (fault (.repeated name))
  let most := s.parameters.length
  if given.positional.length > most then
    throw (fault (.tooMany (s.required.length + s.hidden) (most + s.hidden)
      (given.positional.length + s.hidden)))
  let absent := (s.required.drop given.positional.length).filter fun name =>
    (given.named.lookup name).isNone
  if !absent.isEmpty then throw (fault (.missing absent))
  let defaults : List (String × Datum) := s.required.map (·, .null) ++ s.optional
  return given.positional ++ (defaults.drop given.positional.length).map fun (name, d) =>
    (given.named.lookup name).getD d

end Signature

/-- How a function that comes with a sort of value counts its arguments. -/
inductive Counting where
  /-- None at all. -/
  | never
  /-- Exactly one. -/
  | one
  /-- From a least to a most number, called `expected`. -/
  | expected (least most : Nat)
  /-- From a least to a most number, called `takes`. -/
  | takes (least most : Nat)
  /-- At most as many as there are names, which may be used. -/
  | named (names : List String)
  /-- Any arguments. -/
  | free

private def argumentWord (n : Nat) : String := if n == 1 then " argument" else " arguments"

/-- The positional arguments of a call of a counted function. Arguments given by name are put in
their places, null where nothing is given. -/
def Counting.arguments (c : Counting) (owner name : String) (given : Given) :
    Except TemplateError (List Datum) :=
  let full := if owner.isEmpty then name else owner ++ "." ++ name
  let args := given.positional
  let n := args.length
  let noNames (short : Bool) (r : Except TemplateError (List Datum)) :
      Except TemplateError (List Datum) :=
    if given.named.isEmpty then r
    else .error (.type ((if short then name else full) ++ "() takes no keyword arguments"))
  match c with
  | .never =>
    noNames false (if n == 0 then .ok [] else
      .error (.type (full ++ "() takes no arguments (" ++ toString n ++ " given)")))
  | .one =>
    noNames false (if n == 1 then .ok args else
      .error (.type (full ++ "() takes exactly one argument (" ++ toString n ++ " given)")))
  | .expected least most =>
    let wrong (bound : String) (m : Nat) : Except TemplateError (List Datum) :=
      .error (.type (name ++ " expected " ++ bound ++ toString m ++ argumentWord m ++ ", got "
        ++ toString n))
    noNames false (if n < least then wrong (if least == most then "" else "at least ") least
      else if n > most then wrong (if least == most then "" else "at most ") most
      else .ok args)
  | .takes least most =>
    let wrong (bound : String) (m : Nat) : Except TemplateError (List Datum) :=
      .error (.type (name ++ "() takes " ++ bound ++ toString m ++ argumentWord m ++ " ("
        ++ toString n ++ " given)"))
    noNames true (if n < least then wrong "at least " least
      else if n > most then wrong "at most " most
      else .ok args)
  | .named names =>
    if n + given.named.length > names.length then
      .error (.type (name ++ "() takes at most " ++ toString names.length
        ++ argumentWord names.length ++ " (" ++ toString (n + given.named.length) ++ " given)"))
    else
      match given.named.find? fun (k, _) => !names.contains k with
      | some (k, _) =>
        .error (.type (Text.quoted k ++ " is an invalid keyword argument for " ++ name ++ "()"))
      | none => .ok (args ++ (names.drop n).map fun k => (given.named.lookup k).getD .null)
  | .free => .ok args

end ImagePreload.Template
