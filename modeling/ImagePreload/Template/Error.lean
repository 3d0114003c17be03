import ImagePreload.ErrorKind
import ImagePreload.Number
import ImagePreload.Value.Display
import ImagePreload.Value.Pairs
import ImagePreload.Text.Quoted

/-!
# Why a template does not render

A template may be malformed, name a filter or test that nobody knows, use a missing value where one
is needed, or apply an operation to values that do not have it. Whoever renders in another way may
fail with anything.
-/

namespace ImagePreload.Template

/-- What is wrong with the arguments of a call. -/
inductive CallFault where
  | missing (parameters : List String)
  /-- More positional arguments than the least and the most that fit. -/
  | tooMany (least most given : Nat)
  | unexpected (parameter : String)
  | repeated (parameter : String)

inductive TemplateError where
  | malformed
  /-- A filter or test that is unknown when the template is read, or a misplaced definition. -/
  | rejected
  | undefined (message : String)
  | arithmetic (cause : ArithmeticError)
  | operands (op left right : String)
  | operand (op typeName : String)
  | concatenation (left right : String)
  | repetition (typeName : String)
  | ordering (op left right : String)
  | notCallable (typeName : String)
  | notIterable (typeName : String)
  | notContainer (typeName : String)
  /-- A part that is no text, looked for in a text. -/
  | notContained (typeName : String)
  | noLength (typeName : String)
  | notInteger (typeName : String)
  | noIntegerIn (typeName : String)
  | noFloatIn (typeName : String)
  | integerText (base : Nat) (text : String)
  | longInteger (digits : Nat)
  | longText
  | floatText (text : String)
  | textExpected (typeName : String)
  | pairs (cause : PairsError)
  | unpackTooFew (wanted got : Nat)
  | unpackTooMany (wanted : Nat)
  | notUnpackable (typeName : String)
  | call (function : String) (fault : CallFault)
  | macroTooMany (name : String) (most : Nat)
  | macroKeyword (name keyword : String)
  | macroCaller (name : String)
  | noLoader
  | noTemplates
  | noSuchFilter (name : String)
  | noSuchTest (name : String)
  | requiredBlock (name : String)
  | filterArgument (message : String)
  | templateRuntime (message : String)
  | emptyChoice
  /-- Nothing to go through in turn. -/
  | emptyCycle
  | recursion
  | value (message : String)
  | type (message : String)
  | key (message : String)
  | index (message : String)
  | overflow (message : String)
  | assertion (message : String)
  | attribute (typeName name : String)
  | notImplemented
  /-- Whatever another way to render fails with, unless it is told to stop. -/
  | foreign (kind : ErrorKind) (message : String) (failure : kind ≠ .interrupt)

private def plural (n : Nat) (word : String) : String := if n == 1 then word else word ++ "s"

/-- Names in quotes, with a conjunction before the last one. -/
private def listed : List String → String
  | [] => ""
  | [a] => Text.quoted a
  | [a, b] => Text.quoted a ++ " and " ++ Text.quoted b
  | names =>
    ", ".intercalate (names.dropLast.map Text.quoted) ++ ", and "
      ++ Text.quoted (names.getLast?.getD "")

def CallFault.message (function : String) : CallFault → String
  | .missing names =>
    function ++ "() missing " ++ toString names.length ++ " required positional "
      ++ plural names.length "argument" ++ ": " ++ listed names
  | .tooMany least most given =>
    let range :=
      if least == most then toString most ++ " positional " ++ plural most "argument"
      else "from " ++ toString least ++ " to " ++ toString most ++ " positional arguments"
    function ++ "() takes " ++ range ++ " but " ++ toString given
      ++ (if given == 1 then " was given" else " were given")
  | .unexpected name => function ++ "() got an unexpected keyword argument " ++ Text.quoted name
  | .repeated name => function ++ "() got multiple values for argument " ++ Text.quoted name

def TemplateError.kind : TemplateError → ErrorKind
  | .malformed => .templateSyntax
  | .rejected => .templateAssertion
  | .undefined _ => .undefinedName
  | .arithmetic cause => cause.kind
  | .integerText .. | .longInteger _ | .longText | .floatText _ | .value _ | .unpackTooFew ..
  | .unpackTooMany _ => .value
  | .pairs cause => if cause.isLength then .value else .type
  | .noTemplates => .other "TemplatesNotFound"
  | .noSuchFilter _ | .noSuchTest _ | .requiredBlock _ | .templateRuntime _ => .templateRuntime
  | .filterArgument _ => .other "FilterArgumentError"
  | .emptyChoice | .index _ => .index
  | .recursion => .recursion
  | .emptyCycle => .other "RuntimeError"
  | .key _ => .key
  | .overflow _ => .overflow
  | .assertion _ => .other "AssertionError"
  | .attribute .. => .attribute
  | .notImplemented => .notImplemented
  | .foreign kind .. => kind
  | _ => .type

def TemplateError.message : TemplateError → String
  | .malformed => "malformed template"
  | .rejected => "rejected template"
  | .undefined message => message
  | .arithmetic cause => cause.message
  | .operands op left right =>
    "unsupported operand type(s) for " ++ op ++ ": '" ++ left ++ "' and '" ++ right ++ "'"
  | .operand op t => "bad operand type for unary " ++ op ++ ": '" ++ t ++ "'"
  | .concatenation left right =>
    "can only concatenate " ++ left ++ " (not \"" ++ right ++ "\") to " ++ left
  | .repetition t => "can't multiply sequence by non-int of type '" ++ t ++ "'"
  | .ordering op left right =>
    "'" ++ op ++ "' not supported between instances of '" ++ left ++ "' and '" ++ right ++ "'"
  | .notCallable t => "'" ++ t ++ "' object is not callable"
  | .notIterable t => "'" ++ t ++ "' object is not iterable"
  | .notContainer t => "argument of type '" ++ t ++ "' is not iterable"
  | .notContained t => "'in <string>' requires string as left operand, not " ++ t
  | .noLength t => "object of type '" ++ t ++ "' has no len()"
  | .notInteger t => "'" ++ t ++ "' object cannot be interpreted as an integer"
  | .noIntegerIn t =>
    "int() argument must be a string, a bytes-like object or a real number, not '" ++ t ++ "'"
  | .noFloatIn t => "float() argument must be a string or a real number, not '" ++ t ++ "'"
  | .integerText base text =>
    "invalid literal for int() with base " ++ toString base ++ ": " ++ Text.quoted text
  | .longInteger digits => tooManyDigitsToRead digits
  | .longText => tooManyDigitsMessage
  | .floatText text => "could not convert string to float: " ++ Text.quoted text
  | .textExpected t => "str expected, not " ++ t
  | .pairs cause => cause.message
  | .unpackTooFew wanted got =>
    "not enough values to unpack (expected " ++ toString wanted ++ ", got " ++ toString got ++ ")"
  | .unpackTooMany wanted => "too many values to unpack (expected " ++ toString wanted ++ ")"
  | .notUnpackable t => "cannot unpack non-iterable " ++ t ++ " object"
  | .call function fault => fault.message function
  | .macroTooMany name most =>
    "macro " ++ name ++ " takes not more than " ++ toString most ++ " argument(s)"
  | .macroKeyword name keyword =>
    "macro " ++ name ++ " takes no keyword argument " ++ Text.quoted keyword
  | .macroCaller name =>
    "macro " ++ name ++ " was invoked with two values for the special caller argument."
      ++ " This is most likely a bug."
  | .noLoader => "no loader for this environment specified"
  | .noTemplates => "Tried to select from an empty list of templates."
  | .noSuchFilter name => "No filter named " ++ Text.quoted name ++ " found."
  | .noSuchTest name => "No test named " ++ Text.quoted name ++ " found."
  | .requiredBlock name => "Required block " ++ Text.quoted name ++ " not found"
  | .filterArgument message | .templateRuntime message => message
  | .emptyChoice => "Cannot choose from an empty sequence"
  | .emptyCycle => "at least one item has to be provided"
  | .recursion => "maximum recursion depth exceeded"
  | .value message | .type message | .key message | .index message | .overflow message
  | .assertion message => message
  | .attribute t name => "'" ++ t ++ "' object has no attribute '" ++ name ++ "'"
  | .notImplemented => ""
  | .foreign _ message _ => message

end ImagePreload.Template
