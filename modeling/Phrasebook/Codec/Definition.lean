import Phrasebook.Codec.Message
import Phrasebook.Json.Reader
import Phrasebook.Source.Definition

/-! Definitions in JSON. -/

namespace Phrasebook

open Json (Raw Field)

namespace Definition

/-- Every field of an object may be left out. -/
def Object.ofJson? (raw : Raw) : Option Object :=
  match raw.fields? ["language", "gender", "count", "attributes", "template"] with
  | some [language, gender, count, attributes, template] => do
    let language ← language.defaulted? none (Raw.nullable? Raw.string?)
    let gender ← gender.defaulted? none (Raw.nullable? Gender.ofJson?)
    let count ← count.defaulted? none (Raw.nullable? CountRange.ofJson?)
    let attributes ← attributes.defaulted? none (Raw.nullable? (Raw.dictionary? Raw.string?))
    let template ← template.defaulted? none (Raw.nullable? Raw.string?)
    some { language, gender, count, attributes, template }
  | _ => none

def Object.toJson (object : Object) : Json :=
  .object [("language", Json.ofOption .string object.language),
    ("gender", Json.ofOption Gender.toJson object.gender),
    ("count", Json.ofOption CountRange.toJson object.count),
    ("attributes", Json.ofOption (Json.ofDictionary .string) object.attributes),
    ("template", Json.ofOption .string object.template)]

/-- The number of levels that values may stand in one another. -/
def maxDepth : Nat := 127

/-- A definition is read as a whole before it is told which of the two it is, so that everything in
it must have a value; `depth` levels are around it. -/
def ofJson? (depth : Nat) (raw : Raw) : Option Definition :=
  if raw.isSound (maxDepth - depth) then
    (raw.string?.map text).or ((Object.ofJson? raw).map object)
  else none

def toJson : Definition → Json
  | text template => .string template
  | object fields => fields.toJson

end Definition

namespace Definitions

def ofJson? (raw : Raw) : Option Definitions :=
  raw.dictionary? (Definition.ofJson? 1)

def toJson (definitions : Definitions) : Json :=
  Json.ofDictionary Definition.toJson definitions

/-- Reads a text that holds an object of definitions. -/
def parse? (text : String) : Option Definitions :=
  (Raw.parse? text).bind ofJson?

end Definitions

end Phrasebook
