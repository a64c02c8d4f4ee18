import Phrasebook.Text.Cut

/-! Arguments of a command: options by their long and short names, and operands. An option that
takes a value has it after an equals sign, as the next argument, or right after its short name. -/

namespace Phrasebook.CommandLine

/-- Why a command is not run. -/
inductive Stop where
  | usage
  | help
  | version
  deriving DecidableEq

/-- What an option is followed by. -/
inductive OptionKind where
  | flag
  /-- A value that satisfies the test; it may be a negative number only if that is said. -/
  | value (negative repeatable : Bool) (accepts : String → Bool)
  /-- Ends the reading of arguments. -/
  | stop (stop : Stop)

structure OptionForm where
  long : String
  short : Option Char
  kind : OptionKind

/-- What has been read of the arguments. -/
structure Arguments where
  /-- The options by their long names; a flag has an empty value. -/
  options : List (String × String)
  operands : List String
  deriving DecidableEq

namespace Arguments

def empty : Arguments :=
  ⟨[], []⟩

def has (arguments : Arguments) (long : String) : Bool :=
  arguments.options.any (·.1 == long)

/-- The values of an option in the order they were given. -/
def values (arguments : Arguments) (long : String) : List String :=
  arguments.options.filterMap fun (name, value) => if name = long then some value else none

def value? (arguments : Arguments) (long : String) : Option String :=
  (arguments.values long).head?

/-- The values of an option, each cut at its commas. -/
def commaValues (arguments : Arguments) (long : String) : List String :=
  (arguments.values long).flatMap fun value => (value.toList.splitOn ',').map String.ofList

/-- Adds an occurrence of an option. -/
def addOption (arguments : Arguments) (form : OptionForm) (value : String) :
    Except Stop Arguments :=
  let allowed :=
    match form.kind with
    | .flag => !arguments.has form.long
    | .value _ repeatable accepts => (repeatable || !arguments.has form.long) && accepts value
    | .stop _ => false
  if allowed then .ok { arguments with options := arguments.options ++ [(form.long, value)] }
  else .error .usage

end Arguments

namespace OptionForm

/-- Whether an argument may be the value of the option before it. An argument that looks like an
option is none. -/
def takes (form : OptionForm) (argument : List Char) : Bool :=
  match argument, form.kind with
  | ['-'], _ => true
  | '-' :: rest, .value negative _ _ => negative && rest.all Char.isDigit
  | '-' :: _, _ => false
  | _, _ => true

/-- Reads an option by its long name, with what is attached to it after an equals sign. An option
whose value is still to come is given back. -/
def readLong (form : OptionForm) (arguments : Arguments) (attached : Option String) :
    Except Stop (Arguments × Option OptionForm) :=
  match form.kind, attached with
  | .stop stop, none => .error stop
  | .flag, none => (arguments.addOption form "").map fun arguments => (arguments, none)
  | .value .., none => .ok (arguments, some form)
  | .value .., some value =>
    (arguments.addOption form value).map fun arguments => (arguments, none)
  | _, some _ => .error .usage

end OptionForm

/-- Reads options by their short names. What follows the name of an option with a value is the
value, without an equals sign in front. -/
def readShorts (forms : List OptionForm) (arguments : Arguments) :
    List Char → Except Stop (Arguments × Option OptionForm)
  | [] => .ok (arguments, none)
  | c :: rest =>
    match forms.find? (·.short == some c) with
    | none => .error .usage
    | some form =>
      match form.kind, rest with
      | .stop stop, _ => .error stop
      | .flag, _ =>
        match arguments.addOption form "" with
        | .error stop => .error stop
        | .ok arguments => readShorts forms arguments rest
      | .value .., [] => .ok (arguments, some form)
      | .value .., c :: rest =>
        let value := String.ofList (if c = '=' then rest else c :: rest)
        (arguments.addOption form value).map fun arguments => (arguments, none)

/-- Reads one argument that is no operand. -/
def readOption (forms : List OptionForm) (arguments : Arguments) (argument : List Char) :
    Except Stop (Arguments × Option OptionForm) :=
  match argument with
  | '-' :: '-' :: text =>
    let (name, attached) :=
      match Text.cutAt '=' text with
      | some (name, value) => (name, some (String.ofList value))
      | none => (text, none)
    match forms.find? (·.long == String.ofList name) with
    | some form => form.readLong arguments attached
    | none => .error .usage
  | _ :: shorts => readShorts forms arguments shorts
  | [] => .error .usage

/-- Whether an argument is an option, by itself or with others. -/
def isOption (argument : List Char) : Bool :=
  match argument with
  | '-' :: _ :: _ => true
  | _ => false

/-- Reads options up to the first operand, which is given back with all that follows it. Two hyphens
alone end the options. -/
def readOptions (forms : List OptionForm) :
    Arguments → (waiting : Option OptionForm) → List String →
      Except Stop (Arguments × List String)
  | arguments, none, [] => .ok (arguments, [])
  | _, some _, [] => .error .usage
  | arguments, some form, argument :: rest =>
    if form.takes argument.toList then
      match arguments.addOption form argument with
      | .error stop => .error stop
      | .ok arguments => readOptions forms arguments none rest
    else .error .usage
  | arguments, none, argument :: rest =>
    if argument = "--" ∨ !isOption argument.toList then .ok (arguments, argument :: rest)
    else
      match readOption forms arguments argument.toList with
      | .error stop => .error stop
      | .ok (arguments, waiting) => readOptions forms arguments waiting rest

/-- Whether a text may be the operand at a place. -/
abbrev OperandForm := (place : Nat) → (operand : String) → Bool

/-- Adds operands, each of which must be allowed at its place. -/
def addOperands (form : OperandForm) : Arguments → List String → Except Stop Arguments
  | arguments, [] => .ok arguments
  | arguments, operand :: rest =>
    if form arguments.operands.length operand then
      addOperands form { arguments with operands := arguments.operands ++ [operand] } rest
    else .error .usage

/-- Reads options and operands in any order. -/
def readArguments (forms : List OptionForm) (operandForm : OperandForm) :
    Arguments → (waiting : Option OptionForm) → List String → Except Stop Arguments
  | arguments, none, [] => .ok arguments
  | _, some _, [] => .error .usage
  | arguments, some form, argument :: rest =>
    if form.takes argument.toList then
      match arguments.addOption form argument with
      | .error stop => .error stop
      | .ok arguments => readArguments forms operandForm arguments none rest
    else .error .usage
  | arguments, none, argument :: rest =>
    if argument = "--" then addOperands operandForm arguments rest
    else if isOption argument.toList then
      match readOption forms arguments argument.toList with
      | .error stop => .error stop
      | .ok (arguments, waiting) => readArguments forms operandForm arguments waiting rest
    else
      match addOperands operandForm arguments [argument] with
      | .error stop => .error stop
      | .ok arguments => readArguments forms operandForm arguments none rest

end Phrasebook.CommandLine
