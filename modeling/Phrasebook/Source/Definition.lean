import Phrasebook.Source.Reading

/-! Messages from definitions: a dictionary from statement keys to templates or to objects that
say more. -/

namespace Phrasebook

/-- What is given here counts instead of what the key says. -/
structure Definition.Object where
  language : Option String := none
  gender : Option Gender := none
  count : Option CountRange := none
  attributes : Option (Dictionary String) := none
  template : Option String := none
  deriving DecidableEq

inductive Definition where
  | text (template : String)
  | object (fields : Definition.Object)
  deriving DecidableEq

namespace Definition

/-- Attributes are laid over those of the key, one by one. -/
def Object.override (object : Object) (declared : Source.Declared) : Source.Declared where
  name := declared.name
  language := object.language.or declared.language
  gender := object.gender.or declared.gender
  countRange := object.count.or declared.countRange
  attributes := declared.attributes.overlay (object.attributes.getD .empty)

/-- A template that is not given is empty. -/
def template : Definition → String
  | text template => template
  | object fields => fields.template.getD ""

def override : Definition → Source.Declared → Source.Declared
  | text _, declared => declared
  | object fields, declared => fields.override declared

/-- Reads the definition at a place in key order; the place serves as a line number. -/
def read (options : Source.Options) (place : Nat) (key : String) (definition : Definition) :
    Except Problem (Source.Checked (Option Message)) := do
  let declared ← Source.Declared.read options ⟨none, place + 1, key⟩ key
  let message := (definition.override declared.value).toMessage options key definition.template
  .ok ⟨some message, declared.tolerated⟩

end Definition

abbrev Definitions := Dictionary Definition

/-- Reads the messages of all definitions in key order. -/
def Definitions.read (options : Source.Options) (definitions : Definitions) :
    Except Problem Source.Reading :=
  Source.Reading.collect
    (definitions.entries.mapIdx fun place (key, definition) => definition.read options place key)

end Phrasebook
