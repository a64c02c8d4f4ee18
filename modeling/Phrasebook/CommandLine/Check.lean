import Phrasebook.CommandLine.Outcome

/-! The command that checks files. Every file is read, whatever is wrong with the others; one that
cannot be used makes the command fail. -/

namespace Phrasebook.CommandLine

/-- What a document says about a problem. -/
structure CheckedProblem where
  kind : String
  line : Option Nat
  message : String
  deriving DecidableEq

namespace CheckedProblem

def ofProblem (problem : Problem) : CheckedProblem :=
  ⟨problem.kind, some problem.location.line, problem.message⟩

/-- The only problem of a file that cannot be used. -/
def ofError (explain : Definitions.Explanation) (error : LoadError) : CheckedProblem :=
  ⟨"error", none, describe explain error⟩

def toJson (problem : CheckedProblem) : Json :=
  .object [("kind", .string problem.kind),
    ("line", Json.ofOption (fun line => .integer (line : Nat)) problem.line),
    ("message", .string problem.message)]

end CheckedProblem

/-- A file and what it was read as. -/
structure CheckedFile where
  file : String
  result : Except LoadError Source.Reading

namespace CheckedFile

def passes (checked : CheckedFile) : Bool :=
  checked.result.toOption.isSome

/-- A file that cannot be used has no messages. -/
def messageCount (checked : CheckedFile) : Nat :=
  match checked.result with
  | .ok reading => reading.messages.length
  | .error _ => 0

def problems (checked : CheckedFile) (explain : Definitions.Explanation) : List CheckedProblem :=
  match checked.result with
  | .ok reading => reading.tolerated.map .ofProblem
  | .error error => [.ofError explain error]

def toJson (checked : CheckedFile) (explain : Definitions.Explanation) : Json :=
  .object [("file", .string checked.file), ("messages", .integer checked.messageCount),
    ("problems", .array ((checked.problems explain).map CheckedProblem.toJson))]

/-- The line printed about a file that can be used. -/
def output (checked : CheckedFile) : String :=
  match checked.result with
  | .ok reading =>
    Colour.green.paint "ok" ++ " " ++ checked.file ++ ": " ++ reading.messages.length.repr ++
      " messages\n"
  | .error _ => ""

/-- The warnings about a file that can be used, or why it cannot. -/
def notices (checked : CheckedFile) : List Notice :=
  match checked.result with
  | .ok reading =>
    reading.tolerated.map fun problem =>
      .words (Colour.yellow.paint "warning:" ++ " " ++ problem.message ++ "\n")
  | .error error => [.report (.load error)]

end CheckedFile

namespace CheckOptions

def checkFile (options : CheckOptions) (reader : File.Reader) (file : String) : CheckedFile :=
  ⟨file, readMessages reader (!options.lenient) file⟩

/-- A document says everything on one output. -/
def report (options : CheckOptions) (explain : Definitions.Explanation)
    (files : List CheckedFile) : Outcome :=
  let code : ExitCode := if files.all CheckedFile.passes then .success else .dataError
  if options.json then ⟨code, document (.array (files.map (·.toJson explain))), []⟩
  else ⟨code, String.join (files.map CheckedFile.output), files.flatMap CheckedFile.notices⟩

def run (options : CheckOptions) (reader : File.Reader) (explain : Definitions.Explanation) :
    Outcome :=
  options.report explain (options.files.map (options.checkFile reader))

end CheckOptions

end Phrasebook.CommandLine
