import Phrasebook.Text.CaseTable

/-! Lower case by Unicode's default mapping, which differs from a mapping of single characters in
two places: a capital sigma at the end of a word becomes a final sigma, and the dotted capital I
becomes two characters. -/

namespace Phrasebook.Text

/-- The lower case of one character on its own. -/
def lowerChar (c : Char) : List Char :=
  if c.toNat < 0x80 then [c.toLower]
  else if c = 'İ' then ['i', '\u0307']
  else
    match lowercaseRuns.find? (·.covers c.toNat) with
    | some run => [Char.ofNat (run.apply c.toNat)]
    | none => [c]

/-- Whether the first character that case does not ignore is a cased one. -/
def startsCased (s : List Char) : Bool :=
  match s.dropWhile isCaseIgnorable with
  | [] => false
  | c :: _ => isCased c

/-- `before` holds the characters in front of `s`, the nearest one first. A capital sigma is final
when a cased letter stands before it and none after it. -/
def lowerAfter (before : List Char) : List Char → List Char
  | [] => []
  | c :: cs =>
    let image :=
      if c = 'Σ' then [if startsCased before && !startsCased cs then 'ς' else 'σ']
      else lowerChar c
    image ++ lowerAfter (c :: before) cs

def lower (s : List Char) : List Char :=
  lowerAfter [] s

end Phrasebook.Text
