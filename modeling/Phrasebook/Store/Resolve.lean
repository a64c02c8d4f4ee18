import Phrasebook.Store.Basic
import Phrasebook.Store.Selection

/-! The answer of a store to a request. The candidates are grouped by language, a language is chosen
among those of the groups, and the most specific candidate of that language is the answer. -/

namespace Phrasebook

/-- Messages of one language, or without any. -/
structure LanguageGroup where
  language : Option String
  members : List Message
  deriving DecidableEq

namespace LanguageGroup

/-- Adds a message to the group of its language, which comes last if it is new. -/
def insert (message : Message) : List LanguageGroup → List LanguageGroup
  | [] => [⟨message.language, [message]⟩]
  | group :: groups =>
    if group.language = message.language then
      { group with members := group.members ++ [message] } :: groups
    else group :: insert message groups

/-- The groups in the order of their first messages. -/
def ofMessages (messages : List Message) : List LanguageGroup :=
  messages.foldl (fun groups message => insert message groups) []

/-- The group with the chosen tag; if no tag is chosen, the group without a language, and if there
is none, the first group. -/
def choose? (tag : Option String) (groups : List LanguageGroup) : Option LanguageGroup :=
  match tag with
  | some tag => groups.find? (·.language == some tag)
  | none => (groups.find? (·.language.isNone)).or groups.head?

end LanguageGroup

namespace Store

/-- The messages that may answer a request. -/
def candidates (store : Store) (request : Request) : List Message :=
  (store.variants request.name).filter (·.isCandidate request)

/-- The message that answers a request. -/
def resolve (store : Store) (request : Request) : Option Message :=
  let groups := LanguageGroup.ofMessages (store.candidates request)
  let tags := groups.filterMap (·.language)
  let tag := store.resolution.choose request.languages store.defaultLanguages tags
  (LanguageGroup.choose? tag groups).bind fun group => request.mostSpecific? group.members

/-- Renders a message with the engine that its template names. -/
def render (store : Store) (message : Message) (parameters : Parameters) :
    Except RenderError (List Segment) :=
  store.engines.render message.template parameters

/-- The answer to a request, rendered. -/
def translateSegments (store : Store) (request : Request) (parameters : Parameters) :
    Except RenderError (Option (List Segment)) :=
  match store.resolve request with
  | none => .ok none
  | some message => (store.render message parameters).map some

def translate (store : Store) (request : Request) (parameters : Parameters) :
    Except RenderError (Option String) :=
  (store.translateSegments request parameters).map (Option.map Segment.join)

end Store

end Phrasebook
