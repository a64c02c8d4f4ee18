import Phrasebook.Message
import Phrasebook.Source.Modifier
import Phrasebook.Source.Statement

/-! Messages from source text. A strict reading fails at the first problem; a lenient one notes
problems and goes on. -/

namespace Phrasebook

namespace Source

structure Options where
  strict : Bool := false
  /-- Named where a problem is reported. -/
  fileName : Option String := none
  /-- The language of messages whose key has no tag. -/
  defaultLanguage : Option String := none
  engineId : String := basicEngineId
  deriving DecidableEq

/-- A result and the problems tolerated on the way to it. -/
structure Checked (α : Type) where
  value : α
  tolerated : List Problem
  deriving DecidableEq

/-- Fails with a problem or notes it. -/
def Options.report (options : Options) (problem : Problem) : Except Problem (List Problem) :=
  let problem := problem.inFile options.fileName
  if options.strict then .error problem else .ok [problem]

/-- The messages of a text and the problems tolerated, both in the order of the text. -/
structure Reading where
  messages : List Message
  tolerated : List Problem
  deriving DecidableEq

/-- Puts the readings of the parts of a text together. -/
def Reading.collect : List (Except Problem (Checked (Option Message))) → Except Problem Reading
  | [] => .ok ⟨[], []⟩
  | part :: parts => do
    let first ← part
    let rest ← collect parts
    .ok ⟨first.value.toList ++ rest.messages, first.tolerated ++ rest.tolerated⟩

/-- What a key says about a message. -/
structure Declared where
  name : String
  language : Option String
  gender : Option Gender
  countRange : Option CountRange
  attributes : Dictionary String
  deriving DecidableEq

namespace Declared

def ofKey (key : Key) : Declared :=
  ⟨key.name, key.tag, none, none, .empty⟩

/-- Adds what the metadata say; of two genders, ranges or values the later one counts. -/
def addTokens (options : Options) (location : Location) :
    Declared → List Key.Token → Except Problem (Checked Declared)
  | declared, [] => .ok ⟨declared, []⟩
  | declared, token :: tokens =>
    match token.meaning with
    | .gender gender => addTokens options location { declared with gender := some gender } tokens
    | .countRange range =>
      addTokens options location { declared with countRange := some range } tokens
    | .attribute name value =>
      addTokens options location
        { declared with attributes := declared.attributes.insert name value } tokens
    | .invalid word => do
      let problems ← options.report ⟨.invalidModifier word, declared.name, location⟩
      let rest ← addTokens options location declared tokens
      .ok ⟨rest.value, problems ++ rest.tolerated⟩

/-- Reads a key; of one whose metadata are not closed the rest is kept. -/
def read (options : Options) (location : Location) (key : String) :
    Except Problem (Checked Declared) :=
  match Key.parse key.toList with
  | .ok key => addTokens options location (ofKey key) key.metadata
  | .error unclosed => do
    let problems ← options.report ⟨.unclosedMetadata, unclosed.readable.name, location⟩
    .ok ⟨ofKey unclosed.readable, problems⟩

/-- The message with this template; the template is named by the whole key. -/
def toMessage (declared : Declared) (options : Options) (key template : String) : Message where
  name := declared.name
  language := declared.language.or options.defaultLanguage
  countRange := declared.countRange
  gender := declared.gender
  attributes := declared.attributes
  template := ⟨key, template, options.engineId⟩

end Declared

/-- A statement gives one message; a line that is no statement gives none. -/
def readItem (options : Options) : Statement.Item → Except Problem (Checked (Option Message))
  | .error problem => do
    let problems ← options.report problem
    .ok ⟨none, problems⟩
  | .ok statement => do
    let declared ← Declared.read options statement.location statement.key
    let message := declared.value.toMessage options statement.key statement.value
    .ok ⟨some message, declared.tolerated⟩

/-- Reads the messages of a source text. -/
def read (options : Options) (source : String) : Except Problem Reading :=
  Reading.collect ((Statement.scan source).map (readItem options))

end Source

end Phrasebook
