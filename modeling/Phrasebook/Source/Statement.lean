import Phrasebook.Source.Problem
import Phrasebook.Source.Quoted
import Phrasebook.Text.Blank
import Phrasebook.Text.Cut
import Phrasebook.Text.Lines

/-! The statements of a source text. A line holds a key, an equals sign and a value; a number sign
starts a comment. A value that starts with a quote runs, over line ends, up to the next quote of
the same kind that is not escaped. -/

namespace Phrasebook

/-- A key with its value. The value has no quotes, comments or escapes any more. -/
structure Statement where
  key : String
  value : String
  location : Location
  deriving DecidableEq

namespace Statement

/-- A statement, or what is wrong with it. -/
abbrev Item := Except Problem Statement

/-- A quoted value whose end has not been found yet. -/
structure Pending where
  key : String
  location : Location
  quote : Char
  /-- What the lines so far add to the value, the latest line first. -/
  parts : List (List Char)
  deriving DecidableEq

/-- What the next line is read as. -/
inductive State where
  | outside
  | inside (pending : Pending)
  deriving DecidableEq

namespace Pending

/-- Ends the value with a last part; line ends stand between the parts. -/
def close (pending : Pending) (last : List Char) : Statement where
  key := pending.key
  value := String.ofList (List.intercalate ['\n'] (last :: pending.parts).reverse)
  location := pending.location

def unclosed (pending : Pending) : Problem :=
  ⟨.unclosedValue, pending.key, pending.location⟩

/-- Reads a line, or the rest of one, inside the quotes. What follows the closing quote on its line
is ignored. -/
def feed (pending : Pending) (line : List Char) : State × Option Item :=
  match Quoted.beforeUnescaped? pending.quote line with
  | some last => (.outside, some (.ok (pending.close (Quoted.unescape pending.quote last))))
  | none =>
    let part := Quoted.unescape pending.quote line
    (.inside { pending with parts := part :: pending.parts }, none)

end Pending

/-- The key of a line and, after the first equals sign, its value. -/
def splitLine (line : List Char) : List Char × Option (List Char) :=
  match Text.cutAt '=' line with
  | some (key, value) => (Text.trim key, some value)
  | none => (Text.trim line, none)

/-- A value without quotes ends where a comment starts. -/
def unquoted (value : List Char) : List Char :=
  let content := (Quoted.beforeUnescaped? '#' value).getD value
  Quoted.unescapeComment (Text.trim content)

/-- Reads the value of a statement, or the start of a quoted one. -/
def readValue (key : String) (location : Location) (value : List Char) : State × Option Item :=
  match Text.trimStart value with
  | [] => (.outside, some (.ok ⟨key, "", location⟩))
  | c :: rest =>
    if c = '\'' ∨ c = '"' then Pending.feed ⟨key, location, c, []⟩ rest
    else (.outside, some (.ok ⟨key, String.ofList (unquoted (c :: rest)), location⟩))

/-- Reads a line outside quotes. -/
def readLine (number : Nat) (line : List Char) : State × Option Item :=
  let (key, value) := splitLine line
  let location : Location := ⟨none, number, String.ofList line⟩
  if (Text.trim line).isEmpty || key.head? == some '#' then (.outside, none)
  else
    match value with
    | none => (.outside, some (.error ⟨.missingAssignment, String.ofList key, location⟩))
    | some value => readValue (String.ofList key) location value

def State.step (number : Nat) (line : List Char) : State → State × Option Item
  | outside => readLine number line
  | inside pending => pending.feed line

/-- Reads lines, the first of which has the given number. -/
def scanLines : (state : State) → (number : Nat) → (lines : List (List Char)) → List Item
  | .outside, _, [] => []
  | .inside pending, _, [] => [.error pending.unclosed]
  | state, number, line :: rest =>
    let (next, item) := state.step number line
    item.toList ++ scanLines next (number + 1) rest

/-- The statements of a text in their order, and between them what is wrong. -/
def scan (source : String) : List Item :=
  scanLines .outside 1 (Text.lines source.toList)

end Statement

end Phrasebook
