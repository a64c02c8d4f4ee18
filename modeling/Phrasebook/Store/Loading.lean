import Phrasebook.Codec.Definition
import Phrasebook.File
import Phrasebook.Store.Basic

/-! Loading messages into a store from source text, definitions and files. -/

namespace Phrasebook

inductive LoadError where
  | unreadable (path : String) (failure : File.Failure)
  | problem (cause : Problem)
  /-- The file holds no object of definitions. -/
  | notDefinitions (content : File.Content)
  deriving DecidableEq

/-- Says why a text holds no definitions. Its words are those of whoever reads the text as JSON. -/
abbrev Definitions.Explanation := String → String

def LoadError.message (error : LoadError) (explain : Definitions.Explanation := fun _ => "") :
    String :=
  match error with
  | unreadable path failure => "failed to read '" ++ path ++ "': " ++ failure.reason
  | problem cause => cause.message
  | notDefinitions content =>
    "invalid definitions in '" ++ content.path ++ "': " ++ explain content.text

/-- Reads the text of the file at a path by what the path says about it. -/
def Source.Options.readFile (options : Source.Options) (path text : String) :
    Except LoadError Source.Reading :=
  if File.holdsDefinitions path then
    match Definitions.parse? text with
    | none => .error (.notDefinitions ⟨path, text⟩)
    | some definitions => (definitions.read options).mapError .problem
  else (Source.read options text).mapError .problem

/-- Reads a file. Problems name it by its path, unless the options give it another name. -/
def Source.Options.loadFile (options : Source.Options) (reader : File.Reader) (path : String) :
    Except LoadError Source.Reading := do
  let text ← (reader path).mapError (.unreadable path)
  { options with fileName := options.fileName.or (some path) }.readFile path text

namespace Store

/-- What is done to a store and may fail. There is a store after it either way, in which all that
was done before it failed stays done. -/
abbrev Action (ε α : Type) := EStateM ε Store α

/-- A store and how many messages were just read into it. -/
structure Loaded where
  store : Store
  added : Nat

namespace Action

variable {ε : Type}

/-- Adds the messages that were read, and tells how many they are. -/
def load (reading : Except ε Source.Reading) : Action ε Nat := do
  let reading ← ofExcept reading
  modify fun store => store.addAll reading.messages
  return reading.messages.length

/-- Adds the messages of a source text. -/
def loadSource (options : Source.Options) (source : String) : Action Problem Nat :=
  load (Source.read options source)

/-- Adds the messages of definitions. -/
def loadDefinitions (options : Source.Options) (definitions : Definitions) : Action Problem Nat :=
  load (definitions.read options)

/-- Adds the messages of a file. -/
def loadFile (options : Source.Options) (reader : File.Reader) (path : String) :
    Action LoadError Nat :=
  load (options.loadFile reader path)

@[simp] theorem run_load_ok (reading : Source.Reading) (store : Store) :
    (load (.ok reading : Except ε Source.Reading)).run store =
      .ok reading.messages.length (store.addAll reading.messages) := rfl

/-- Nothing is added before it is known that there is something to add. -/
@[simp] theorem run_load_error (error : ε) (store : Store) :
    (load (.error error)).run store = .error error store := rfl

/-- The store after an action, also after one that failed. -/
def left {α : Type} (action : Action ε α) (store : Store) : Store :=
  match action.run store with
  | .ok _ store => store
  | .error _ store => store

/-- What a load has done, unless it failed. -/
def loaded (action : Action ε Nat) (store : Store) : Except ε Loaded :=
  match action.run store with
  | .ok added store => .ok ⟨store, added⟩
  | .error error _ => .error error

end Action

/-! Loads as functions of a store, where it is of no interest after one that failed. -/

def loadSource (store : Store) (options : Source.Options) (source : String) :
    Except Problem Loaded :=
  (Action.loadSource options source).loaded store

theorem loadSource_of_read {options : Source.Options} {source : String}
    {reading : Source.Reading} (h : Source.read options source = .ok reading) (store : Store) :
    store.loadSource options source =
      .ok ⟨store.addAll reading.messages, reading.messages.length⟩ := by
  rw [loadSource, Action.loadSource, h]
  rfl

def loadDefinitions (store : Store) (options : Source.Options) (definitions : Definitions) :
    Except Problem Loaded :=
  (Action.loadDefinitions options definitions).loaded store

def loadFile (store : Store) (options : Source.Options) (reader : File.Reader) (path : String) :
    Except LoadError Loaded :=
  (Action.loadFile options reader path).loaded store

end Store

end Phrasebook
