import Phrasebook.CountRange
import Phrasebook.Dictionary
import Phrasebook.Gender
import Phrasebook.Language.Range

/-! Messages, their templates, and requests for messages. -/

namespace Phrasebook

/-- The engine that fills in parameters between braces. -/
def basicEngineId : String := "basic"

/-- The body of a message before its parameters are filled in. -/
structure Template where
  /-- Names the template in errors. -/
  id : String
  source : String
  /-- The engine that renders the template. -/
  engineId : String
  deriving DecidableEq

/-- One variant of a named message. What is absent does not restrict whom the variant is for. -/
structure Message where
  name : String
  language : Option String
  countRange : Option CountRange
  gender : Option Gender
  attributes : Dictionary String
  template : Template
  deriving DecidableEq

/-- What tells the variants of all messages apart: everything but the template. -/
structure Message.Identity where
  name : String
  language : Option String
  countRange : Option CountRange
  gender : Option Gender
  attributes : Dictionary String
  deriving DecidableEq

def Message.identity (message : Message) : Message.Identity where
  name := message.name
  language := message.language
  countRange := message.countRange
  gender := message.gender
  attributes := message.attributes

/-- Asks for the best variant of a named message. -/
structure Request where
  name : String
  languages : List Language.Range
  count : Option Int64
  gender : Option Gender
  attributes : Dictionary String
  deriving DecidableEq

/-- Asks for any variant of a named message. -/
def Request.ofName (name : String) : Request :=
  ⟨name, [], none, none, .empty⟩

end Phrasebook
