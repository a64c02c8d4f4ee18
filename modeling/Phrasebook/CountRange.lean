import Phrasebook.Number.Integer
import Phrasebook.Text.Blank

/-! The counts a message applies to: all integers from one bound to another. The least and the
greatest integer of 64 bits stand for bounds at infinity. -/

namespace Phrasebook

/-- The counts from `first` to `last`, both included; none when the bounds are out of order. -/
structure CountRange where
  first : Int64
  last : Int64
  deriving DecidableEq

namespace CountRange

def single (count : Int64) : CountRange :=
  ⟨count, count⟩

def atLeast (count : Int64) : CountRange :=
  ⟨count, Int64.maxValue⟩

def contains (range : CountRange) (count : Int64) : Bool :=
  range.first ≤ count && count ≤ range.last

def isEmpty (range : CountRange) : Bool :=
  range.last < range.first

/-- Ranges are ordered by their first counts, and by their last counts where those agree. -/
def le (a b : CountRange) : Bool :=
  a.first < b.first || (a.first == b.first && a.last ≤ b.last)

/-- One side of a written range. -/
inductive Bound where
  /-- Nothing is written. -/
  | absent
  | infinite (negative : Bool)
  | finite (negative : Bool) (digits : List Char)
  deriving DecidableEq

namespace Bound

/-- The count that the bound stands for; `unbounded` is meant when nothing is written. -/
def count? (unbounded : Int64) : Bound → Option Int64
  | absent => some unbounded
  | infinite negative => some (if negative then Int64.minValue else Int64.maxValue)
  | finite negative digits => Integer.read? (if negative then '-' :: digits else digits)

def isNumeral (c : Char) : Bool :=
  c.isDigit || c == '_'

/-- Whether a text starts with `infinity` in any ASCII case. -/
def startsInfinite (s : List Char) : Bool :=
  (s.take 8).map Char.toLower = ['i', 'n', 'f', 'i', 'n', 'i', 't', 'y']

/-- Reads `infinity`, or digits with underscores between them, and gives the rest of the text. A
minus sign must have one of the two after it. -/
def readUnsigned? (negative : Bool) (s : List Char) : Option (Bound × List Char) :=
  if startsInfinite s then some (infinite negative, s.drop 8)
  else
    let digits := (s.takeWhile isNumeral).filter (· != '_')
    let rest := s.dropWhile isNumeral
    if digits.isEmpty then (if negative then none else some (absent, rest))
    else some (finite negative digits, rest)

def read? : List Char → Option (Bound × List Char)
  | '-' :: s => readUnsigned? true s
  | s => readUnsigned? false s

def text (count : Int64) : String :=
  if count = Int64.minValue then "-infinity"
  else if count = Int64.maxValue then "infinity"
  else Integer.text count

end Bound

/-- Reads two bounds with two dots between them. -/
def parseBounds? (s : List Char) : Option CountRange :=
  match Bound.read? s with
  | some (first, '.' :: '.' :: rest) =>
    match Bound.read? rest with
    | some (last, []) => do
      let first ← first.count? Int64.minValue
      let last ← last.count? Int64.maxValue
      some ⟨first, last⟩
    | _ => none
  | _ => none

/-- Reads an integer, or two bounds with two dots between them. Underscores between digits do not
count. -/
def parse? (s : List Char) : Option CountRange :=
  match Integer.read? (s.filter (· != '_')) with
  | some count => some (single count)
  | none => parseBounds? s

/-- A range of one count is written as that count. -/
def text (range : CountRange) : String :=
  if range.first = range.last then Bound.text range.first
  else Bound.text range.first ++ ".." ++ Bound.text range.last

/-- A text that is no range of counts. -/
structure Invalid where
  text : String
  deriving DecidableEq

def Invalid.message (error : Invalid) : String :=
  "invalid count range '" ++ error.text ++ "'"

/-- Reads a range with blanks around it; an error holds the text as it was given. -/
def read (text : String) : Except Invalid CountRange :=
  match parse? (Text.trim text.toList) with
  | some range => .ok range
  | none => .error ⟨text⟩

end CountRange

end Phrasebook
