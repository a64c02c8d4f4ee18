import Phrasebook.Message

/-! Which messages may answer a request, and which of them does so best. -/

namespace Phrasebook

namespace Message

/-- A gender must be the one asked for. -/
def fitsGender (message : Message) (request : Request) : Bool :=
  message.gender.isNone || message.gender == request.gender

/-- A count that is asked for must lie in the range. -/
def fitsCount (message : Message) (request : Request) : Bool :=
  match message.countRange, request.count with
  | some range, some count => range.contains count
  | _, _ => true

/-- An attribute that is asked for must have the value asked for. -/
def fitsAttributes (message : Message) (request : Request) : Bool :=
  message.attributes.entries.all fun (name, value) =>
    (request.attributes.find? name).all (· == value)

/-- Whether the message may answer the request at all; neither name nor language matter here. -/
def isCandidate (message : Message) (request : Request) : Bool :=
  message.fitsGender request && message.fitsCount request && message.fitsAttributes request

/-- One point for each attribute that is asked for with its value, one for a range of counts and
one for a gender. -/
def specificity (message : Message) (request : Request) : Nat :=
  (message.attributes.entries.countP fun (name, value) =>
    request.attributes.find? name == some value) +
    message.countRange.isSome.toNat + message.gender.isSome.toNat

end Message

/-- The first of the messages that are most specific. -/
def Request.mostSpecific? (request : Request) : List Message → Option Message
  | [] => none
  | message :: messages =>
    match request.mostSpecific? messages with
    | none => some message
    | some best =>
      if message.specificity request < best.specificity request then some best else some message

end Phrasebook
