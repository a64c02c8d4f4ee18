import Phrasebook.Language.Resolution
import Phrasebook.Message
import Phrasebook.Number.Power
import Phrasebook.Template.Engine
import Std.Data.HashMap

/-! Stores of messages. The messages of one name form a bucket; buckets are kept in the order of
their first messages, and an index finds them by name. -/

namespace Phrasebook

/-- The variants of one message in the order they were first added. -/
structure Bucket where
  name : String
  messages : List Message
  deriving DecidableEq

namespace Bucket

/-- Puts a message in the place of the one with the same identity, or else at the end. -/
def place (message : Message) : List Message → List Message
  | [] => [message]
  | stored :: rest =>
    if stored.identity = message.identity then message :: rest
    else stored :: place message rest

def add (message : Message) (bucket : Bucket) : Bucket :=
  { bucket with messages := place message bucket.messages }

end Bucket

structure Store where
  /-- The places of the buckets by name. -/
  index : Std.HashMap String Nat
  buckets : Array Bucket
  /-- Tried when no range of a request chooses a language. -/
  defaultLanguages : List Language.Range
  resolution : Language.Resolution
  engines : Engines

namespace Store

/-- A store without messages. -/
def new (defaultLanguages : List Language.Range) : Store where
  index := ∅
  buckets := #[]
  defaultLanguages
  resolution := Language.Resolution.basic
  engines := Engines.standard

def empty : Store :=
  new []

instance : Inhabited Store :=
  ⟨empty⟩

/-- Adds a message, in place of one with the same identity. -/
def add (store : Store) (message : Message) : Store :=
  match store.index[message.name]? with
  | some place => { store with buckets := store.buckets.modify place (Bucket.add message) }
  | none =>
    { store with
      index := store.index.insert message.name store.buckets.size
      buckets := store.buckets.push ⟨message.name, [message]⟩ }

@[simp] theorem resolution_add (store : Store) (message : Message) :
    (store.add message).resolution = store.resolution := by
  rw [add]
  cases store.index[message.name]? <;> rfl

@[simp] theorem defaultLanguages_add (store : Store) (message : Message) :
    (store.add message).defaultLanguages = store.defaultLanguages := by
  rw [add]
  cases store.index[message.name]? <;> rfl

@[simp] theorem engines_add (store : Store) (message : Message) :
    (store.add message).engines = store.engines := by
  rw [add]
  cases store.index[message.name]? <;> rfl

def addAll (store : Store) (messages : List Message) : Store :=
  messages.foldl add store

def bucket? (store : Store) (name : String) : Option Bucket :=
  store.index[name]?.bind fun place => store.buckets[place]?

/-- All messages of a name. -/
def variants (store : Store) (name : String) : List Message :=
  (store.bucket? name).elim [] (·.messages)

def contains (store : Store) (name : String) : Bool :=
  (store.bucket? name).isSome

/-- The names in the order they were first added. -/
def names (store : Store) : List String :=
  store.buckets.toList.map (·.name)

/-- All messages, those of the same name together. -/
def messages (store : Store) : List Message :=
  store.buckets.toList.flatMap (·.messages)

def size (store : Store) : Nat :=
  (store.buckets.toList.map (·.messages.length)).sum

def isEmpty (store : Store) : Bool :=
  store.size == 0

def registerEngine (store : Store) (id : String) (engine : Engine) : Store :=
  { store with engines := store.engines.register id engine }

end Store

end Phrasebook
