import Phrasebook.Text.PrintTable
import Phrasebook.Text.Ranges
import Phrasebook.Text.ShapeTable

/-! Texts between quotes for diagnostics, where every character that does not show is spelled
out. -/

namespace Phrasebook.Text

def isUnprintable (c : Char) : Bool :=
  inRanges unprintableRanges c.toNat || inRanges markRanges c.toNat

def quotedChar (c : Char) : List Char :=
  if c = '"' then ['\\', '"']
  else if c = '\\' then ['\\', '\\']
  else if c = '\n' then ['\\', 'n']
  else if c = '\r' then ['\\', 'r']
  else if c = '\t' then ['\\', 't']
  else if c.toNat = 0 then ['\\', '0']
  else if isUnprintable c then ['\\', 'u', '\x7b'] ++ Nat.toDigits 16 c.toNat ++ ['\x7d']
  else [c]

def quoted (s : String) : String :=
  "\"" ++ String.ofList (s.toList.flatMap quotedChar) ++ "\""

end Phrasebook.Text
