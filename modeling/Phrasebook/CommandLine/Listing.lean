import Phrasebook.CommandLine.Outcome
import Phrasebook.CommandLine.Table

/-! The command that lists the messages of a file. -/

namespace Phrasebook.CommandLine

/-- The attributes of a message in order of their names. -/
def attributesText (attributes : Dictionary String) : String :=
  ", ".intercalate (attributes.entries.map fun (name, value) => name ++ "=" ++ value)

/-- What is absent leaves its cell empty. -/
def messageRow (message : Message) : List String :=
  [message.name, message.language.getD "", (message.gender.map Gender.name).getD "",
    (message.countRange.map CountRange.text).getD "", attributesText message.attributes,
    message.template.source]

def messageTable (messages : List Message) : Table :=
  ⟨["Name", "Language", "Gender", "Count", "Attributes", "Template"], messages.map messageRow⟩

def messageDocument (messages : List Message) : Json :=
  .array (messages.map Message.toJson)

namespace ListOptions

def run (options : ListOptions) (reader : File.Reader) : Outcome :=
  match readStore reader [] options.file with
  | .error error => .failed (.load error)
  | .ok store =>
    .success (if options.json then document (messageDocument store.messages)
      else (messageTable store.messages).text)

end ListOptions

end Phrasebook.CommandLine
