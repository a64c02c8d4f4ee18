import Phrasebook.Text.Cut

/-! The source of a template as characters and injections. An injection is a name between braces. A
backslash before a brace or a backslash takes the special meaning from it. -/

namespace Phrasebook

inductive Piece where
  | character (c : Char)
  | injection (name : List Char)
  deriving DecidableEq

namespace Piece

/-- The characters that a backslash makes plain. -/
def isSpecial (c : Char) : Bool :=
  c == '\x7b' || c == '\x7d' || c == '\\'

/-- Reads the pieces of a source. Where a brace opens an injection and nothing closes it, the error
is the rest of the source from that brace on. A closing brace on its own is plain. -/
def read : List Char → Except (List Char) (List Piece)
  | [] => .ok []
  | ['\\'] => .ok [character '\\']
  | '\\' :: c :: s =>
    if isSpecial c then (read s).map (character c :: ·)
    else (read (c :: s)).map (character '\\' :: ·)
  | c :: s =>
    if c = '\x7b' then
      match h : Text.cutWhere (· == '\x7d') s with
      | some (name, rest) =>
        have := Text.length_lt_of_cutWhere h
        (read rest).map (injection name :: ·)
      | none => .error (c :: s)
    else (read s).map (character c :: ·)
termination_by s => s.length

/-- Writes a text so that it is read as plain characters. -/
def escape : List Char → List Char
  | [] => []
  | c :: s => if isSpecial c then '\\' :: c :: escape s else c :: escape s

end Piece

end Phrasebook
