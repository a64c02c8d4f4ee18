import Phrasebook.CommandLine.Arguments
import Phrasebook.Dictionary
import Phrasebook.Gender
import Phrasebook.Number.Integer

/-! The commands and what their arguments mean. -/

namespace Phrasebook.CommandLine

/-- Checks files for problems. -/
structure CheckOptions where
  files : List String
  /-- Problems are warnings. -/
  lenient : Bool
  json : Bool
  deriving DecidableEq

/-- Lists the messages of a file. -/
structure ListOptions where
  file : String
  json : Bool
  deriving DecidableEq

/-- Reports which messages of a file lack a language. -/
structure CoverageOptions where
  file : String
  languages : List String
  /-- A missing message makes the command fail. -/
  strict : Bool
  json : Bool
  deriving DecidableEq

/-- Answers a request from a file. -/
structure TranslateOptions where
  file : String
  name : String
  languages : List String
  defaultLanguages : List String
  count : Option Int64
  gender : Option Gender
  attributes : List (String × String)
  parameters : List (String × String)
  json : Bool
  deriving DecidableEq

inductive Command where
  | check (options : CheckOptions)
  | list (options : ListOptions)
  | coverage (options : CoverageOptions)
  | translate (options : TranslateOptions)
  deriving DecidableEq

/-- A name and a value with an equals sign between them. -/
def pair? (argument : String) : Option (String × String) :=
  (Text.cutAt '=' argument.toList).map fun (name, value) =>
    (String.ofList name, String.ofList value)

def gender? (argument : String) : Option Gender :=
  (Gender.read argument).toOption

def count? (argument : String) : Option Int64 :=
  Integer.read? argument.toList

def flag (long : String) (short : Option Char) : OptionForm :=
  ⟨long, short, .flag⟩

/-- An option that may be given once. -/
def single (long : String) (accepts : String → Bool) : OptionForm :=
  ⟨long, none, .value false false accepts⟩

/-- An option that may be given any number of times. -/
def repeated (long : String) (short : Option Char) (accepts : String → Bool) : OptionForm :=
  ⟨long, short, .value false true accepts⟩

/-- The options that may stand before and after the name of a command. -/
def commonForms : List OptionForm :=
  [single "color" fun value => ["auto", "always", "never"].contains value,
    flag "verbose" (some 'v'), ⟨"help", some 'h', .stop .help⟩]

/-- The options before the name of a command. -/
def leadingForms : List OptionForm :=
  ⟨"version", some 'V', .stop .version⟩ :: commonForms

def jsonForm : OptionForm :=
  flag "json" none

def checkForms : List OptionForm :=
  [flag "lenient" none, jsonForm] ++ commonForms

def listForms : List OptionForm :=
  [jsonForm] ++ commonForms

def coverageForms : List OptionForm :=
  [repeated "lang" none fun _ => true, flag "strict" none, jsonForm] ++ commonForms

def translateForms : List OptionForm :=
  [repeated "lang" none fun _ => true, repeated "default-lang" none fun _ => true,
    ⟨"count", none, .value true false fun value => (count? value).isSome⟩,
    single "gender" fun value => (gender? value).isSome,
    repeated "attr" none fun value => (pair? value).isSome,
    repeated "param" (some 'p') fun value => (pair? value).isSome, jsonForm] ++ commonForms

namespace Command

/-- One file or more. No file has an empty name. -/
def filesForm : OperandForm := fun _ operand =>
  operand != ""

def fileForm : OperandForm := fun place operand =>
  place == 0 && operand != ""

/-- A file and then any text. -/
def fileAndNameForm : OperandForm := fun place operand =>
  (place == 0 && operand != "") || place == 1

def readCheck (arguments : List String) : Except Stop Command := do
  let read ← readArguments checkForms filesForm .empty none arguments
  if read.operands.isEmpty then .error .usage
  else .ok (.check ⟨read.operands, read.has "lenient", read.has "json"⟩)

def readList (arguments : List String) : Except Stop Command := do
  let read ← readArguments listForms fileForm .empty none arguments
  match read.operands with
  | [file] => .ok (.list ⟨file, read.has "json"⟩)
  | _ => .error .usage

/-- At least one language must be given. -/
def readCoverage (arguments : List String) : Except Stop Command := do
  let read ← readArguments coverageForms fileForm .empty none arguments
  match read.operands with
  | [file] =>
    if read.has "lang" then
      .ok (.coverage ⟨file, read.commaValues "lang", read.has "strict", read.has "json"⟩)
    else .error .usage
  | _ => .error .usage

def readTranslate (arguments : List String) : Except Stop Command := do
  let read ← readArguments translateForms fileAndNameForm .empty none arguments
  match read.operands with
  | [file, name] =>
    .ok (.translate {
      file, name
      languages := read.commaValues "lang"
      defaultLanguages := read.commaValues "default-lang"
      count := (read.value? "count").bind count?
      gender := (read.value? "gender").bind gender?
      attributes := (read.values "attr").filterMap pair?
      parameters := (read.values "param").filterMap pair?
      json := read.has "json" })
  | _ => .error .usage

/-- Tells which command is asked for by name; help may be asked for any of them. -/
def readNamed (name : String) (arguments : List String) : Except Stop Command :=
  match name with
  | "check" => readCheck arguments
  | "list" => readList arguments
  | "coverage" => readCoverage arguments
  | "translate" => readTranslate arguments
  | "help" =>
    match arguments with
    | [] => .error .help
    | [command] =>
      if ["check", "list", "coverage", "translate", "help"].contains command then .error .help
      else .error .usage
    | _ => .error .usage
  | _ => .error .usage

/-- Reads the arguments of the program. -/
def read (arguments : List String) : Except Stop Command := do
  let (_, rest) ← readOptions leadingForms .empty none arguments
  match rest with
  | [] => .error .usage
  | name :: rest => readNamed name rest

/-- The files that the command reads. -/
def files : Command → List String
  | check options => options.files
  | list options => [options.file]
  | coverage options => [options.file]
  | translate options => [options.file]

end Command

end Phrasebook.CommandLine
