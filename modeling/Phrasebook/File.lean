import Phrasebook.Text.Cut

/-! Files of messages: what a path says about a file, and why a file may not be readable. -/

namespace Phrasebook.File

/-- The last part of a path that is neither empty nor a dot; a path that ends in two dots has no
file name. -/
def name (path : List Char) : List Char :=
  let parts := (path.splitOn '/').filter fun part => part != [] && part != ['.']
  match parts.getLast? with
  | none | some ['.', '.'] => []
  | some name => name

/-- What follows the last dot of a file name, unless the name starts with it. -/
def extension? (path : List Char) : Option (List Char) :=
  let name := name path
  match Text.beforeLast '.' name with
  | none | some [] => none
  | some stem => some (name.drop (stem.length + 1))

/-- Whether a file holds definitions and not source text. -/
def holdsDefinitions (path : String) : Bool :=
  (extension? path.toList).any fun extension =>
    extension.map Char.toLower = ['j', 's', 'o', 'n']

/-- Why a file cannot be read as text. -/
inductive Failure where
  | notFound
  | isDirectory
  | notText
  | other (reason : String)
  deriving DecidableEq

def Failure.reason : Failure → String
  | notFound => "No such file or directory (os error 2)"
  | isDirectory => "Is a directory (os error 21)"
  | notText => "stream did not contain valid UTF-8"
  | other reason => reason

/-- Gives the text of the file at a path. -/
abbrev Reader := String → Except Failure String

/-- A file that can be read. -/
structure Content where
  path : String
  text : String
  deriving DecidableEq

end Phrasebook.File
