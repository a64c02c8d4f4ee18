import Phrasebook.Text.Cut

/-! Patterns of language tags. A star in a pattern stands for one or more ASCII letters of lower
case or digits, and every other character for itself. -/

namespace Phrasebook.Language.Pattern

/-- What a star may stand for. -/
def isWild (c : Char) : Bool :=
  c.isDigit || ('a' ≤ c && c ≤ 'z')

/-- `later` says of each end of the text whether the rest of a pattern accepts it; so does the
result for the pattern that has `mark` in front. The ends are listed from the longest on. -/
def literalRow (mark : Char) : (text : List Char) → (later : List Bool) → List Bool
  | c :: text, _ :: later => (c == mark && later.headD false) :: literalRow mark text later
  | _, _ => [false]

/-- The same for the pattern that has a star in front. -/
def starRow : (text : List Char) → (later : List Bool) → List Bool
  | c :: text, _ :: later =>
    let longer := starRow text later
    (isWild c && (later.headD false || longer.headD false)) :: longer
  | _, _ => [false]

/-- Says of each end of the text, from the longest on, whether the pattern accepts it. -/
def table (text : List Char) : (pattern : List Char) → List Bool
  | [] => (text.map fun _ => false) ++ [true]
  | mark :: pattern =>
    if mark = '*' then starRow text (table text pattern)
    else literalRow mark text (table text pattern)

/-- Whether the pattern accepts the whole text. -/
def accepts (pattern text : List Char) : Bool :=
  (table text pattern).headD false

/-- A pattern without its last subtag, and without a subtag of one byte that is then last. -/
def truncate (pattern : List Char) : List Char :=
  match Text.beforeLast '-' pattern with
  | none => []
  | some shorter =>
    match Text.beforeLast '-' shorter with
    | none => shorter
    | some shortest =>
      if Text.bytes shorter = Text.bytes shortest + 2 then shortest else shorter

theorem length_truncate_lt {pattern : List Char} (h : pattern ≠ []) :
    (truncate pattern).length < pattern.length := by
  unfold truncate
  split
  · simpa using List.length_pos_iff.2 h
  next shorter hs =>
    have hlt := Text.length_lt_of_beforeLast hs
    split
    · exact hlt
    next shortest ht =>
      have hlt' := Text.length_lt_of_beforeLast ht
      split <;> omega

/-- The pattern and its truncations, as long as something is left. -/
def chain : List Char → List (List Char)
  | [] => []
  | c :: cs => (c :: cs) :: chain (truncate (c :: cs))
termination_by pattern => pattern.length
decreasing_by exact length_truncate_lt (List.cons_ne_nil c cs)

end Phrasebook.Language.Pattern
