/-! What can be wrong with a statement. -/

namespace Phrasebook

/-- Where a statement stands. -/
structure Location where
  file : Option String
  /-- Counted from one. -/
  line : Nat
  /-- The line as it is written. -/
  text : String
  deriving DecidableEq

def Location.describe (location : Location) : String :=
  location.file.getD "unknown" ++ ":" ++ location.line.repr

inductive Problem.Cause where
  /-- A line holds a key alone. -/
  | missingAssignment
  /-- No quote ends a quoted value. -/
  | unclosedValue
  /-- No bracket ends the metadata of a key. -/
  | unclosedMetadata
  /-- A word in the metadata is neither a gender nor a range of counts. -/
  | invalidModifier (modifier : String)
  deriving DecidableEq

/-- The key is given as it is written where the line is at fault, and by its name alone where the
metadata are. -/
structure Problem where
  cause : Problem.Cause
  key : String
  location : Location
  deriving DecidableEq

namespace Problem

def Cause.kind : Cause → String
  | missingAssignment => "missing-assignment-operator"
  | unclosedValue => "unclosed-value-string"
  | unclosedMetadata => "unclosed-metadata-object"
  | invalidModifier _ => "invalid-modifier"

def kind (problem : Problem) : String :=
  problem.cause.kind

def Cause.describe : Cause → String
  | missingAssignment => "missing `=` operator"
  | unclosedValue => "unclosed value literal"
  | unclosedMetadata => "unclosed metadata object"
  | invalidModifier modifier => "invalid modifier `" ++ modifier ++ "`"

def message (problem : Problem) : String :=
  problem.cause.describe ++ " for key `" ++ problem.key ++ "` on " ++ problem.location.describe

/-- Names the file the problem was found in, when it is known. -/
def inFile (file : Option String) (problem : Problem) : Problem :=
  match file with
  | none => problem
  | some _ => { problem with location := { problem.location with file } }

end Problem

end Phrasebook
