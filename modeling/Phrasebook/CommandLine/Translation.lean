import Phrasebook.CommandLine.Outcome
import Phrasebook.Store.Resolve
import Phrasebook.Store.Suggestion

/-! The command that answers a request from a file. -/

namespace Phrasebook.CommandLine

namespace TranslateOptions

def request (options : TranslateOptions) : Request where
  name := options.name
  languages := Language.Range.ranked options.languages
  count := options.count
  gender := options.gender
  attributes := .ofList options.attributes

/-- Values that read as integers are integers. -/
def values (options : TranslateOptions) : Parameters :=
  .ofList (options.parameters.map fun (name, value) => (name, Value.ofText value))

/-- Why a request has no answer, and for an unknown name which ones may have been meant. -/
def unanswered (options : TranslateOptions) (store : Store) : String :=
  let start := Colour.red.paint "error:"
  if store.contains options.name then
    start ++ " no variant of `" ++ options.name ++ "` matches the request\n"
  else
    let suggestions := store.suggest options.name
    start ++ " unknown message `" ++ options.name ++ "`\n" ++
      if suggestions.isEmpty then ""
      else "  did you mean: " ++ ", ".intercalate suggestions ++ "\n"

def resultDocument (message : Message) (result : String) : Json :=
  .object [("name", .string message.name), ("language", Json.ofOption .string message.language),
    ("template", .string message.template.source), ("result", .string result)]

def answer (options : TranslateOptions) (store : Store) : Outcome :=
  match store.resolve options.request with
  | none => ⟨.dataError, "", [.words (options.unanswered store)]⟩
  | some message =>
    match store.render message options.values with
    | .error error => .failed (.render error)
    | .ok segments =>
      let result := Segment.join segments
      .success (if options.json then document (resultDocument message result)
        else result ++ "\n")

def run (options : TranslateOptions) (reader : File.Reader) : Outcome :=
  match readStore reader (Language.Range.ranked options.defaultLanguages) options.file with
  | .error error => .failed (.load error)
  | .ok store => options.answer store

end TranslateOptions

end Phrasebook.CommandLine
