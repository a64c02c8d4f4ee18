/-! Quoted values and comments. A backslash before a quote or before another backslash takes the
special meaning from it. -/

namespace Phrasebook.Quoted

/-- The text before the first `mark` that no backslash escapes. -/
def beforeUnescaped? (mark : Char) : List Char → Option (List Char)
  | [] => none
  | '\\' :: c :: s => (beforeUnescaped? mark s).map fun before => '\\' :: c :: before
  | c :: s =>
    if c = mark then some [] else (beforeUnescaped? mark s).map fun before => c :: before

/-- Resolves the escapes of a part of one line. A backslash before another character stays, and one
at the end of the part is dropped. -/
def unescape (quote : Char) : List Char → List Char
  | [] => []
  | ['\\'] => []
  | '\\' :: c :: s =>
    if c = quote ∨ c = '\\' then c :: unescape quote s else '\\' :: c :: unescape quote s
  | c :: s => c :: unescape quote s

/-- Escapes the quotes and backslashes of a text. -/
def escape (quote : Char) : List Char → List Char
  | [] => []
  | c :: s =>
    if c = '\\' ∨ c = quote then '\\' :: c :: escape quote s else c :: escape quote s

/-- A text between quotes, so that it is read back unchanged. -/
def write (quote : Char) (content : String) : String :=
  String.ofList (quote :: escape quote content.toList ++ [quote])

/-- Drops the backslash before each number sign. -/
def unescapeComment : List Char → List Char
  | [] => []
  | '\\' :: '#' :: s => '#' :: unescapeComment s
  | c :: s => c :: unescapeComment s

end Phrasebook.Quoted
