import Phrasebook.Value

/-! Rendered messages, in pieces that keep the values of parameters apart from the text. -/

namespace Phrasebook

inductive Segment where
  | literal (text : String)
  | parameter (value : Value)
  deriving DecidableEq

namespace Segment

def text : Segment → String
  | literal text => text
  | parameter value => value.text

/-- The text of a whole message. -/
def join (segments : List Segment) : String :=
  String.join (segments.map text)

end Segment

end Phrasebook
