import Phrasebook.CommandLine.Run

/-! The command-line program. It reads the files that the arguments name and leaves all else to pure
functions. -/

open Phrasebook

/-- Reads a file as text. -/
def readTextFile (path : String) : IO (Except File.Failure String) := do
  try
    let bytes ← IO.FS.readBinFile path
    match String.fromUTF8? bytes with
    | some text => return .ok text
    | none => return .error .notText
  catch error =>
    match error with
    | .noFileOrDirectory .. => return .error .notFound
    | error => return .error (.other error.toString)

def main (arguments : List String) : IO UInt32 := do
  let paths := ((CommandLine.Command.read arguments).toOption.map (·.files)).getD []
  let contents ← paths.mapM fun path => do
    let content ← readTextFile path
    return (path, content)
  let reader : File.Reader := fun path =>
    ((contents.find? (·.1 == path)).map (·.2)).getD (.error .notFound)
  let outcome := CommandLine.run arguments reader
  IO.print outcome.output
  IO.eprint outcome.errors
  return outcome.code.toNat.toUInt32
