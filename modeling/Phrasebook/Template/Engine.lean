import Phrasebook.Message
import Phrasebook.Template.Piece
import Phrasebook.Template.Segment
import Phrasebook.Text.Debug

/-! Engines, which render templates with values for their parameters. The basic engine puts values
in place of names between braces. -/

namespace Phrasebook

inductive RenderError where
  /-- Nothing closes the brace at an offset in bytes. -/
  | unclosedInjection (template : String) (offset : Nat)
  | missingParameter (template parameter : String)
  | unknownEngine (template engine : String)
  deriving DecidableEq

namespace RenderError

def message : RenderError → String
  | unclosedInjection template offset =>
    "unclosed template injection at `" ++ template ++ "` (offset " ++ offset.repr ++ ")"
  | missingParameter template parameter =>
    "injection parameter \x7b" ++ parameter ++ "\x7d not provided at `" ++ template ++ "`"
  | unknownEngine template engine =>
    "unknown template engine '" ++ engine ++ "' for `" ++ template ++ "`"

end RenderError

abbrev Parameters := Dictionary Value

/-- Renders a template. -/
abbrev Engine := Template → Parameters → Except RenderError (List Segment)

namespace Engine

/-- A rendered template: plain text, and then values each with the plain text after it. -/
structure Filled where
  lead : List Char
  rest : List (Value × List Char)
  deriving DecidableEq

namespace Filled

def addCharacter (c : Char) (filled : Filled) : Filled :=
  ⟨c :: filled.lead, filled.rest⟩

def addValue (value : Value) (filled : Filled) : Filled :=
  ⟨[], (value, filled.lead) :: filled.rest⟩

/-- Plain texts and values in turn; plain texts come first and last, if need be empty. -/
def segments (filled : Filled) : List Segment :=
  .literal (String.ofList filled.lead) ::
    filled.rest.flatMap fun (value, text) => [.parameter value, .literal (String.ofList text)]

end Filled

/-- Puts values in place of injections; the first name without a value is missing. -/
def fill (template : String) (parameters : Parameters) : List Piece → Except RenderError Filled
  | [] => .ok ⟨[], []⟩
  | .character c :: pieces => (fill template parameters pieces).map (Filled.addCharacter c)
  | .injection name :: pieces =>
    match parameters.find? (String.ofList name) with
    | none => .error (.missingParameter template (String.ofList name))
    | some value => (fill template parameters pieces).map (Filled.addValue value)

/-- An injection that nothing closes is an error before any missing parameter. -/
def basic : Engine := fun template parameters =>
  match Piece.read template.source.toList with
  | .error rest =>
    .error (.unclosedInjection template.id (template.source.utf8ByteSize - Text.bytes rest))
  | .ok pieces => (fill template.id parameters pieces).map Filled.segments

end Engine

/-- The engines that templates may name. -/
structure Engines where
  byId : Dictionary Engine

namespace Engines

def empty : Engines :=
  ⟨.empty⟩

/-- Adds an engine, in place of any other of the same name. -/
def register (engines : Engines) (id : String) (engine : Engine) : Engines :=
  ⟨engines.byId.insert id engine⟩

def standard : Engines :=
  empty.register basicEngineId Engine.basic

def contains (engines : Engines) (id : String) : Bool :=
  engines.byId.contains id

/-- Renders a template with the engine it names. -/
def render (engines : Engines) : Engine := fun template parameters =>
  match engines.byId.find? template.engineId with
  | some engine => engine template parameters
  | none => .error (.unknownEngine template.id template.engineId)

/-- The names of the engines in order, for diagnostics. -/
def describe (engines : Engines) : String :=
  "EngineRegistry \x7b engines: [" ++
    ", ".intercalate (engines.byId.keys.map Text.quoted) ++ "] \x7d"

end Engines

end Phrasebook
