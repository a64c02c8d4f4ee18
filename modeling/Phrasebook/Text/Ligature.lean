import Phrasebook.Text.Emoji
import Phrasebook.Text.ShapeTable

/-! Letters that are written as one, and the columns of single characters. Texts are read from the
end here, as for emoji: what a text starts with tells what a letter in front of it is joined to. -/

namespace Phrasebook.Text

/-- The marks that take a column all the same. -/
def spacingMarks : List Char :=
  ['\u2D7F', '\uFF9E', '\uFF9F']

def isColumnless (c : Char) : Bool :=
  (inRanges markRanges c.toNat || inRanges columnlessRanges c.toNat) && !spacingMarks.contains c

/-- The columns of a character by itself. Two Khmer signs stand for several letters. -/
def charWidth (c : Char) : Nat :=
  if c.toNat ≤ 0xA0 then 1
  else if c = '\u17A4' then 2
  else if c = '\u17D8' then 3
  else if isColumnless c then 0
  else if inRanges wideRanges c.toNat then 2
  else 1

/-- The marks that a display may ignore. -/
def isIgnorableMark (c : Char) : Bool :=
  inRanges [(0x34F, 0x34F), (0x17B4, 0x17B5), (0x180B, 0x180D), (0x180F, 0x180F),
    (0xFE00, 0xFE0F), (0xE0100, 0xE01EF)] c.toNat

/-- Whether Arabic letters are joined across a character. -/
def isTransparent (c : Char) : Bool :=
  isColumnless c && !inRanges nonjoiningRanges c.toNat

/-- The Arabic letters that join an alef after them. -/
def isLam (c : Char) : Bool :=
  inRanges [(0x644, 0x644), (0x6B5, 0x6B8), (0x76A, 0x76A), (0x8A6, 0x8A6), (0x8C7, 0x8C7)] c.toNat

def isAlef (c : Char) : Bool :=
  inRanges [(0x622, 0x623), (0x625, 0x625), (0x627, 0x627), (0x671, 0x673), (0x675, 0x675),
    (0x773, 0x774), (0x870, 0x882)] c.toNat

/-- The Tifinagh letters that a joiner makes one of. -/
def isTifinagh (c : Char) : Bool :=
  inRanges [(0x2D31, 0x2D65), (0x2D6F, 0x2D6F)] c.toNat

/-- The Khmer letters that a coeng puts under the letter in front of it. -/
def isSubscribed (c : Char) : Bool :=
  inRanges [(0x1780, 0x1782), (0x1784, 0x1787), (0x1789, 0x178C), (0x178E, 0x1793),
    (0x1795, 0x1798), (0x179B, 0x179D), (0x17A0, 0x17A0), (0x17A2, 0x17A2), (0x17A7, 0x17A7),
    (0x17AB, 0x17AC), (0x17AF, 0x17AF)] c.toNat

/-- What a text starts with, if it may be the rest of a ligature. Where it is said that the rest is
joined, a joiner stands in front of the letter. -/
inductive LigatureRest where
  | alef
  | lamed (joined : Bool)
  /-- The Buginese letter ya. -/
  | ya (joined : Bool)
  /-- The Buginese vowel sign i, a joiner and ya. -/
  | vowelYa
  | tifinagh (joined : Bool)
  /-- The consonant joiner of Tifinagh and a letter. -/
  | joinerTifinagh
  /-- The second part of a tone letter in Lisu. -/
  | toneEnd
  /-- The Old Turkic letter i. -/
  | orkhonI (joined : Bool)
  | subscribed
  /-- The Kirat Rai vowel sign e. -/
  | vowelE
  /-- Two vowel signs e, or the sign that is written for them. -/
  | vowelAi
  deriving DecidableEq

namespace LigatureRest

def ofChar? (c : Char) : Option LigatureRest :=
  if isAlef c then some alef
  else if c = 'ל' then some (lamed false)
  else if c = '\u1A10' then some (ya false)
  else if isTifinagh c then some (tifinagh false)
  else if c = '\uA4FC' ∨ c = '\uA4FD' then some toneEnd
  else if c.toNat = 0x10C03 then some (orkhonI false)
  else if isSubscribed c then some subscribed
  else if c.toNat = 0x16D67 then some vowelE
  else if c.toNat = 0x16D68 then some vowelAi
  else none

/-- Whether a character may stand inside the ligature, in front of its rest. -/
def allows (c : Char) : LigatureRest → Bool
  | alef => isTransparent c
  | vowelE | vowelAi => false
  | _ => c == joiner || isIgnorableMark c

/-- The rest with a joiner in front. -/
def join : LigatureRest → LigatureRest
  | lamed _ => lamed true
  | ya _ => ya true
  | tifinagh _ => tifinagh true
  | orkhonI _ => orkhonI true
  | rest => rest

/-- What a letter makes of the rest after it, and the columns that it adds. Nothing is left of a
ligature that is complete. -/
def beforeLetter (c : Char) : LigatureRest → Option (Int × Option LigatureRest)
  | alef => if isLam c then some (0, none) else none
  | lamed true => if c = 'א' then some (0, none) else none
  | ya true => if c = '\u1A17' then some (0, some vowelYa) else none
  | vowelYa => if c = '\u1A15' then some (0, none) else none
  | tifinagh joined =>
    if c = '\u2D7F' then some (1, some joinerTifinagh)
    else if joined && isTifinagh c then some (0, none)
    else none
  | joinerTifinagh => if isTifinagh c then some (-1, none) else none
  | toneEnd => if inRanges [(0xA4F8, 0xA4FB)] c.toNat then some (0, none) else none
  | orkhonI true => if c.toNat = 0x10C32 then some (0, none) else none
  | subscribed => if c = '\u17D2' then some (-1, none) else none
  | vowelE =>
    if c.toNat = 0x16D63 ∨ c.toNat = 0x16D69 then some (0, none)
    else if c.toNat = 0x16D67 then some (0, some vowelAi)
    else if c.toNat = 0x16D68 then some (1, some vowelE)
    else none
  | vowelAi => if c.toNat = 0x16D63 then some (0, none) else none
  | _ => none

/-- What a character makes of the rest after it, and the columns that it adds, if it is a part of
the same ligature. -/
def before (c : Char) (rest : LigatureRest) : Option (Int × Option LigatureRest) :=
  if rest.allows c then some (0, some (if c = joiner then rest.join else rest))
  else rest.beforeLetter c

end LigatureRest

end Phrasebook.Text
