import Phrasebook.Text.Emoji
import Phrasebook.Text.Ligature

/-! The number of columns that a line takes on a terminal. The columns of a character depend on what
follows it, so a line is read from its end. -/

namespace Phrasebook.Text

/-- The variation selectors, which choose a style for the character in front of them. -/
inductive Selector where
  | emoji
  | text
  /-- Puts a quotation mark into a square of its own. -/
  | fullWidth
  deriving DecidableEq

def Selector.ofChar? (c : Char) : Option Selector :=
  if c = '\uFE0F' then some emoji
  else if c = '\uFE0E' then some text
  else if c = '\uFE01' then some fullWidth
  else none

def isQuotationMark (c : Char) : Bool :=
  c == '‘' || c == '’' || c == '“' || c == '”'

/-- What a text starts with, as far as the columns of a character in front of it depend on it. -/
inductive Rest where
  | plain
  | emoji (rest : EmojiRest)
  | ligature (rest : LigatureRest)
  deriving DecidableEq

namespace Rest

def ofChar (c : Char) : Rest :=
  match EmojiRest.ofChar? c with
  | some rest => emoji rest
  | none =>
    match LigatureRest.ofChar? c with
    | some rest => ligature rest
    | none => plain

/-- What a character makes of the rest after it, and the columns that it adds, if it is joined to
it. -/
def before (c : Char) : Rest → Option (Int × Rest)
  | plain => none
  | emoji rest => (rest.before c).map fun (columns, rest) => (columns, emoji rest)
  | ligature rest =>
    (rest.before c).map fun (columns, rest) => (columns, rest.elim plain ligature)

/-- What is left of a rest when a selector stands in front of it. The selector that chooses emoji
may stand inside a joined emoji, and any selector inside most ligatures. -/
def select (selector : Selector) : Rest → Rest
  | emoji (.joined keycap) => if selector = .emoji then emoji (.joined keycap) else plain
  | ligature rest => if rest.allows '\uFE0F' then ligature rest else plain
  | _ => plain

/-- What is left of a rest when the selector in front of it has nothing to choose for. -/
def unselect : Rest → Rest
  | emoji _ => plain
  | rest => rest

/-- Whether an emoji and a joiner come before an emoji chosen now. -/
def isJoined : Rest → Bool
  | emoji (.joined _) => true
  | _ => false

end Rest

/-- What comes after a place in a line. -/
structure Following where
  /-- The selector that comes first, if one does. -/
  selector : Option Selector
  rest : Rest
  deriving DecidableEq

namespace Following

def plain : Following :=
  ⟨none, .plain⟩

/-- The columns of a character in a style that the selector after it chooses. -/
def styled? (c : Char) (after : Following) : Option (Int × Following) :=
  match after.selector with
  | some .emoji =>
    if hasEmojiStyle c then
      some (if after.rest.isJoined then 0 else 2, ⟨none, .emoji .whole⟩)
    else none
  | some .text => if hasTextStyle c then some (1, plain) else none
  | some .fullWidth => if isQuotationMark c then some (2, plain) else none
  | none => none

/-- The columns of a character that no selector chooses a style for. -/
def unstyled (c : Char) (rest : Rest) : Int × Following :=
  if c.toNat ≤ 0xA0 then (1, plain)
  else
    match Selector.ofChar? c with
    | some selector => (0, ⟨some selector, rest.select selector⟩)
    | none =>
      match rest.before c with
      | some (columns, rest) => (columns, ⟨none, rest⟩)
      | none => (charWidth c, ⟨none, .ofChar c⟩)

/-- The columns of a character and what comes after the place in front of it. -/
def before (c : Char) (after : Following) : Int × Following :=
  match after.styled? c with
  | some result => result
  | none =>
    unstyled c (if after.selector.isSome then after.rest.unselect else after.rest)

end Following

/-- The columns of a line and what comes after the place in front of it. -/
def measure (line : List Char) : Int × Following :=
  line.foldr (fun c (columns, after) =>
    let (added, after) := after.before c
    (added + columns, after)) (0, .plain)

def width (line : String) : Nat :=
  (measure line.toList).1.toNat

end Phrasebook.Text
