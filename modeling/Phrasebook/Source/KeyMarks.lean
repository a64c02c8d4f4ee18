import Phrasebook.Source.Key

/-! Keys read in one pass. The pass goes over the characters of a key and marks where its parts
start and end; then the parts are cut out at the marks. A place is a number of bytes from the start
of the key. -/

namespace Phrasebook.Key

structure Marks where
  nameEnd : Option Nat := none
  /-- The number sign that starts the tag. -/
  sign : Option Nat := none
  tagEnd : Option Nat := none
  /-- Where the metadata start, and the bracket that closes them. -/
  block : Option (Nat × Char) := none
  /-- Where the metadata start and end, once they are closed. -/
  content : Option (Nat × Nat) := none
  deriving DecidableEq

namespace Marks

/-- Only the first number sign starts a tag, and only the first opening bracket metadata. A mark
that has been made stays where it is. -/
def stepOutside (marks : Marks) (place : Nat) (c : Char) : Marks :=
  if marks.sign = none ∧ c = '#' then
    { marks with nameEnd := some (marks.nameEnd.getD place), sign := some place }
  else if marks.block = none ∧ isOpener c = true then
    { marks with
      nameEnd := some (marks.nameEnd.getD place)
      tagEnd := if marks.sign.isSome then some (marks.tagEnd.getD place) else marks.tagEnd
      block := some (place + c.utf8Size, closer c) }
  else marks

/-- Inside the brackets no character counts but the one that closes them. -/
def step (marks : Marks) (place : Nat) (c : Char) : Marks :=
  match marks.block, marks.content with
  | some (start, closer), none =>
    if c = closer then { marks with content := some (start, place) } else marks
  | _, _ => marks.stepOutside place c

def run (marks : Marks) (place : Nat) : List Char → Marks
  | [] => marks
  | c :: s => run (marks.step place c) (place + c.utf8Size) s

/-- The marks of a key. -/
def ofKey (key : List Char) : Marks :=
  run {} 0 key

section

variable (marks : Marks) (key : List Char)

def name? : Option (List Char) :=
  Text.slice? 0 (marks.nameEnd.getD (Text.bytes key)) key

/-- The tag, if there is a sign, after which a byte is left out. -/
def tag? : Option (Option (List Char)) :=
  marks.sign.mapM fun sign => Text.slice? (sign + 1) (marks.tagEnd.getD (Text.bytes key)) key

def content? : Option (Option (List Char)) :=
  marks.content.mapM fun (start, stop) => Text.slice? start stop key

/-- Reads the parts of a key; none if one of them could not be cut out. -/
def read? : Option (Except Unclosed Key) := do
  let name ← marks.name? key
  let tag ← marks.tag? key
  let content ← marks.content? key
  let decoded : Key := ⟨String.ofList (Text.trim name), tag.bind tagOf, content.elim [] tokens⟩
  some (if marks.block.isSome && content.isNone then .error ⟨decoded⟩ else .ok decoded)

end

end Marks

end Phrasebook.Key
