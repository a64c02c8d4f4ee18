import Phrasebook.CommandLine.Command
import Phrasebook.Store.Loading
import Phrasebook.Template.Engine

/-! What a command prints and how it ends. -/

namespace Phrasebook.CommandLine

inductive ExitCode where
  | success
  /-- The arguments cannot be understood. -/
  | usage
  /-- The files or the request are at fault. -/
  | dataError
  /-- The command could not be carried out. -/
  | failure
  deriving DecidableEq

def ExitCode.toNat : ExitCode → Nat
  | success => 0
  | usage => 2
  | dataError => 65
  | failure => 70

/-- Why a command cannot be carried out. -/
inductive Failure where
  | load (error : LoadError)
  | render (error : RenderError)
  deriving DecidableEq

/-- What is said beside the output. How a failure is laid out and how arguments are explained is
worded elsewhere. -/
inductive Notice where
  | words (lines : String)
  | report (failure : Failure)
  | advice (stop : Stop)
  deriving DecidableEq

def Notice.text : Notice → String
  | words lines => lines
  | report _ | advice _ => ""

/-- The output holds whole lines. -/
structure Outcome where
  code : ExitCode
  output : String
  notices : List Notice
  deriving DecidableEq

namespace Outcome

def success (output : String) : Outcome :=
  ⟨.success, output, []⟩

/-- A command that failed reports the failure and prints nothing. -/
def failed (failure : Failure) : Outcome :=
  ⟨.failure, "", [.report failure]⟩

/-- The lines on the error output that are worded here. -/
def errors (outcome : Outcome) : String :=
  String.join (outcome.notices.map Notice.text)

end Outcome

/-- Colours of words on a terminal. -/
inductive Colour where
  | red
  | green
  | yellow

def Colour.code : Colour → String
  | red => "31"
  | green => "32"
  | yellow => "33"

/-- A word in bold and in colour. -/
def Colour.paint (colour : Colour) (word : String) : String :=
  "\x1b[1m\x1b[" ++ colour.code ++ "m" ++ word ++ "\x1b[39m\x1b[0m"

/-- The reason why the messages of a file cannot be used. -/
def describe (explain : Definitions.Explanation) : LoadError → String
  | .unreadable path _ => "cannot read " ++ path
  | .problem cause => cause.message
  | .notDefinitions content =>
    "invalid definitions in " ++ content.path ++ ": " ++ explain content.text

/-- Reads the messages of a file. -/
def readMessages (reader : File.Reader) (strict : Bool) (path : String) :
    Except LoadError Source.Reading :=
  { strict : Source.Options }.loadFile reader path

/-- A store of the messages of a file, whatever problems it has. -/
def readStore (reader : File.Reader) (defaultLanguages : List Language.Range) (path : String) :
    Except LoadError Store :=
  (readMessages reader false path).map fun reading =>
    (Store.new defaultLanguages).addAll reading.messages

/-- The lines of a document in JSON. -/
def document (json : Json) : String :=
  json.pretty 0 ++ "\n"

end Phrasebook.CommandLine
