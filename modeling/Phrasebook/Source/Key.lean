import Phrasebook.CountRange
import Phrasebook.Text.Cut

/-! Statement keys: a name, after a number sign a language tag, and metadata in brackets. -/

namespace Phrasebook

/-- An entry of the metadata. -/
inductive Key.Token where
  | bare (word : String)
  | assigned (name value : String)
  deriving DecidableEq

structure Key where
  name : String
  tag : Option String
  metadata : List Key.Token
  deriving DecidableEq

/-- The metadata of a key are opened and never closed; the rest of the key could be read. -/
structure Key.Unclosed where
  readable : Key
  deriving DecidableEq

namespace Key

def Unclosed.message (error : Unclosed) : String :=
  "unclosed metadata object in key `" ++ error.readable.name ++ "`"

def isOpener (c : Char) : Bool :=
  c == '[' || c == '\x7b' || c == '(' || c == '<'

/-- The bracket that closes what an opening bracket opens. -/
def closer (opener : Char) : Char :=
  if opener = '[' then ']' else if opener = '\x7b' then '\x7d' else if opener = '(' then ')'
  else '>'

/-- What may stand between the name and the value of an attribute. -/
def isAssignment (c : Char) : Bool :=
  c == '-' || c == '|' || c == '=' || c == ':' || c == ' '

/-- A range of counts is one word, whatever hyphens it holds. -/
def Token.ofText (s : List Char) : Token :=
  if (CountRange.parse? s).isSome then bare (String.ofList s)
  else
    match Text.cutWhere isAssignment s with
    | some (name, value) =>
      assigned (String.ofList (Text.trim name)) (String.ofList (Text.trim value))
    | none => bare (String.ofList s)

/-- The entries of the metadata, which commas and ampersands separate; blank ones do not count. -/
def tokens (content : List Char) : List Token :=
  let entries := (content.splitOnP fun c => c == ',' || c == '&').map Text.trim
  (entries.filter fun entry => !entry.isEmpty).map Token.ofText

/-- A blank tag is none. -/
def tagOf (s : List Char) : Option String :=
  let tag := Text.trim s
  if tag.isEmpty then none else some (String.ofList tag)

/-- The tag after the first number sign. -/
def lateTag (s : List Char) : Option String :=
  (Text.cutAt '#' s).bind fun (_, tag) => tagOf tag

/-- Reads the metadata after their opening bracket. Only if no number sign came before them may one
come after them. -/
def readBlock (name : String) (tag : Option (List Char)) (opener : Char) (s : List Char) :
    Except Unclosed Key :=
  match Text.cutAt (closer opener) s with
  | some (content, after) =>
    .ok ⟨name, (match tag with | some tag => tagOf tag | none => lateTag after), tokens content⟩
  | none => .error ⟨⟨name, tag.bind tagOf, []⟩⟩

/-- Reads a tag after its number sign, and metadata if a bracket follows. -/
def readTag (name : String) (s : List Char) : Except Unclosed Key :=
  let tag := s.takeWhile fun c => !isOpener c
  match s.dropWhile fun c => !isOpener c with
  | [] => .ok ⟨name, tagOf tag, []⟩
  | opener :: rest => readBlock name (some tag) opener rest

/-- The name of a key ends at its first number sign or opening bracket. -/
def endsName (c : Char) : Bool :=
  c == '#' || isOpener c

def parse (key : List Char) : Except Unclosed Key :=
  let name := String.ofList (Text.trim (key.takeWhile fun c => !endsName c))
  match key.dropWhile fun c => !endsName c with
  | [] => .ok ⟨name, none, []⟩
  | c :: rest => if c = '#' then readTag name rest else readBlock name none c rest

end Key

end Phrasebook
