import Phrasebook.Number.Shortest

/-! Writing JSON, on one line or indented. -/

namespace Phrasebook

inductive Json where
  | null
  | integer (n : Int)
  | float (x : Double)
  | string (s : String)
  | array (items : List Json)
  | object (members : List (String × Json))

namespace Json

/-- Floating-point numbers show that they are no integers, and have an exponent when they are at
least ten to the power 16 or less than ten to the power -5. -/
def floatStyle : FloatStyle where
  plainFrom := some (-5)
  plainBelow := some 16
  wholeEnding := ".0"
  exponentSign := "+"
  tie := .toEven

/-- The infinities and what is not a number have no form in JSON. -/
def floatText (x : Double) : String :=
  if x.isFinite then floatStyle.write x else "null"

def hexPair (n : Nat) : List Char :=
  [Nat.digitChar (n / 16), Nat.digitChar (n % 16)]

/-- Quotes, backslashes and control characters are escaped. -/
def escapeChar (c : Char) : List Char :=
  match c with
  | '"' => ['\\', '"']
  | '\\' => ['\\', '\\']
  | '\x08' => ['\\', 'b']
  | '\x0c' => ['\\', 'f']
  | '\n' => ['\\', 'n']
  | '\r' => ['\\', 'r']
  | '\t' => ['\\', 't']
  | c => if c.toNat < 0x20 then ['\\', 'u', '0', '0'] ++ hexPair c.toNat else [c]

def stringText (s : String) : String :=
  "\"" ++ String.ofList (s.toList.flatMap escapeChar) ++ "\""

mutual

/-- The text of a value on one line without blanks. -/
def compact : Json → String
  | null => "null"
  | integer n => n.repr
  | float x => floatText x
  | string s => stringText s
  | array items => "[" ++ ",".intercalate (compactItems items) ++ "]"
  | object members => "\x7b" ++ ",".intercalate (compactMembers members) ++ "\x7d"

def compactItems : List Json → List String
  | [] => []
  | item :: items => item.compact :: compactItems items

def compactMembers : List (String × Json) → List String
  | [] => []
  | (key, value) :: members =>
    (stringText key ++ ":" ++ value.compact) :: compactMembers members

end

/-- The start of a line at a depth of indentation. -/
def newLine (depth : Nat) : String :=
  "\n" ++ String.ofList (List.replicate (2 * depth) ' ')

/-- Parts between brackets, each on lines of its own; nothing stands between the brackets when
there are no parts. -/
def block (opening closing : String) (depth : Nat) (parts : List String) : String :=
  if parts.isEmpty then opening ++ closing
  else
    opening ++ ",".intercalate (parts.map (newLine (depth + 1) ++ ·)) ++ newLine depth ++ closing

mutual

/-- The text of a value in which each item and each member has a line of its own. -/
def pretty (depth : Nat) : Json → String
  | null => "null"
  | integer n => n.repr
  | float x => floatText x
  | string s => stringText s
  | array items => block "[" "]" depth (prettyItems (depth + 1) items)
  | object members => block "\x7b" "\x7d" depth (prettyMembers (depth + 1) members)

def prettyItems (depth : Nat) : List Json → List String
  | [] => []
  | item :: items => item.pretty depth :: prettyItems depth items

def prettyMembers (depth : Nat) : List (String × Json) → List String
  | [] => []
  | (key, value) :: members =>
    (stringText key ++ ": " ++ value.pretty depth) :: prettyMembers depth members

end

end Json

end Phrasebook
