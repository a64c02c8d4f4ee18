import Phrasebook.Json.Record
import Phrasebook.Json.Writer
import Phrasebook.Language.Direction
import Phrasebook.Message
import Phrasebook.Value

/-! Messages, requests and their parts in JSON. -/

namespace Phrasebook

open Json (Raw Field)

def Json.ofOption {α : Type} (write : α → Json) : Option α → Json
  | none => .null
  | some value => write value

def Json.ofDictionary {α : Type} (write : α → Json) (d : Dictionary α) : Json :=
  .object (d.entries.map fun (key, value) => (key, write value))

namespace Gender

def ofJson? (raw : Raw) : Option Gender := do
  let text ← raw.string?
  (read text).toOption

def toJson (gender : Gender) : Json :=
  .string gender.name

end Gender

namespace CountRange

def ofJson? (raw : Raw) : Option CountRange := do
  let text ← raw.string?
  (read text).toOption

def toJson (range : CountRange) : Json :=
  .string range.text

end CountRange

namespace Language.Direction

/-- A direction is given by its name, or by an object with the name as its only key and nothing
under it. -/
def ofJson? : Raw → Option Direction
  | .object [(some name, .null)] => ofName? name
  | .string (some name) => ofName? name
  | _ => none

def toJson (direction : Direction) : Json :=
  .string direction.name

end Language.Direction

namespace Language.Range

def ofJson? (raw : Raw) : Option Range :=
  match raw.fields? ["language", "weight"] with
  | some [language, weight] => do
    let language ← language.required? Raw.string?
    let weight ← weight.defaulted? Double.one Raw.double?
    some ⟨language, weight⟩
  | _ => none

def toJson (range : Range) : Json :=
  .object [("language", .string range.language), ("weight", .float range.weight)]

end Language.Range

namespace Template

def ofJson? (raw : Raw) : Option Template :=
  match raw.fields? ["id", "source", "engine_id"] with
  | some [id, source, engineId] => do
    let id ← id.required? Raw.string?
    let source ← source.required? Raw.string?
    let engineId ← engineId.defaulted? basicEngineId Raw.string?
    some ⟨id, source, engineId⟩
  | _ => none

def toJson (template : Template) : Json :=
  .object [("id", .string template.id), ("source", .string template.source),
    ("engine_id", .string template.engineId)]

end Template

namespace Message

def ofJson? (raw : Raw) : Option Message :=
  match raw.fields? ["name", "language", "count_range", "gender", "attributes", "template"] with
  | some [name, language, countRange, gender, attributes, template] => do
    let name ← name.required? Raw.string?
    let language ← language.optional? Raw.string?
    let countRange ← countRange.optional? CountRange.ofJson?
    let gender ← gender.optional? Gender.ofJson?
    let attributes ← attributes.defaulted? .empty (Raw.dictionary? Raw.string?)
    let template ← template.required? Template.ofJson?
    some ⟨name, language, countRange, gender, attributes, template⟩
  | _ => none

def toJson (message : Message) : Json :=
  .object [("name", .string message.name), ("language", Json.ofOption .string message.language),
    ("count_range", Json.ofOption CountRange.toJson message.countRange),
    ("gender", Json.ofOption Gender.toJson message.gender),
    ("attributes", Json.ofDictionary .string message.attributes),
    ("template", message.template.toJson)]

end Message

namespace Request

def ofJson? (raw : Raw) : Option Request :=
  match raw.fields? ["name", "languages", "count", "gender", "attributes"] with
  | some [name, languages, count, gender, attributes] => do
    let name ← name.required? Raw.string?
    let languages ← languages.defaulted? [] (Raw.list? Language.Range.ofJson?)
    let count ← count.optional? Raw.int64?
    let gender ← gender.optional? Gender.ofJson?
    let attributes ← attributes.defaulted? .empty (Raw.dictionary? Raw.string?)
    some ⟨name, languages, count, gender, attributes⟩
  | _ => none

def toJson (request : Request) : Json :=
  .object [("name", .string request.name),
    ("languages", .array (request.languages.map Language.Range.toJson)),
    ("count", Json.ofOption (fun count => .integer count.toInt) request.count),
    ("gender", Json.ofOption Gender.toJson request.gender),
    ("attributes", Json.ofDictionary .string request.attributes)]

end Request

namespace Value

/-- An integer beyond 64 bits is taken as a floating-point number. -/
def ofJson? (raw : Raw) : Option Value :=
  ((raw.int64?.map number).or (raw.double?.map float)).or (raw.string?.map string)

def toJson : Value → Json
  | number n => .integer n.toInt
  | float x => .float x
  | string s => .string s

end Value

end Phrasebook
