import Phrasebook.Text.EmojiTable
import Phrasebook.Text.Ranges

/-! Emoji in several parts. An emoji and a skin tone, two regional indicators, and emoji with
joiners between them make one emoji, which takes no more columns than one of its parts. Texts are
read from the end here: what a text starts with tells what an emoji in front of it is a part of. -/

namespace Phrasebook.Text

/-- Joins the characters on its two sides. -/
def joiner : Char := '\u200D'

/-- Puts the character in front of it on a key. -/
def keycap : Char := '\u20E3'

/-- Ends the name of a region after a black flag. -/
def tagEnd : Char := Char.ofNat 0xE007F

def isEmoji (c : Char) : Bool :=
  inRanges emojiRanges c.toNat

def isSkinTone (c : Char) : Bool :=
  inRanges [(0x1F3FB, 0x1F3FF)] c.toNat

def takesSkinTone (c : Char) : Bool :=
  inRanges skinToneBaseRanges c.toNat

/-- The letters of which two make a flag. -/
def isIndicator (c : Char) : Bool :=
  inRanges [(0x1F1E6, 0x1F1FF)] c.toNat

def isTagLetter (c : Char) : Bool :=
  inRanges [(0xE0061, 0xE007A)] c.toNat

def isTagDigit (c : Char) : Bool :=
  inRanges [(0xE0030, 0xE0039)] c.toNat

/-- Whether a character may be chosen to be an emoji. -/
def hasEmojiStyle (c : Char) : Bool :=
  inRanges textEmojiRanges c.toNat || inRanges styledEmojiRanges c.toNat

/-- Whether an emoji may be chosen to be text and is then narrow. Ideographs stay wide. -/
def hasTextStyle (c : Char) : Bool :=
  inRanges styledEmojiRanges c.toNat && !inRanges [(0x1F200, 0x1F2FF)] c.toNat

/-- What a text starts with, if it may be the rest of an emoji. -/
inductive EmojiRest where
  /-- An emoji of one part or several. -/
  | whole
  | skinTone
  | indicators (several : Bool)
  /-- A joiner and an emoji, after a sign for a key if that is said. -/
  | joined (keycap : Bool)
  /-- So many regional indicators, a joiner and an emoji. -/
  | joinedIndicators (count : Nat)
  /-- The end of the name of a region, a joiner and an emoji. The end of the name has so many
  digits and then so many letters. -/
  | joinedTags (digits letters : Nat)
  deriving DecidableEq

namespace EmojiRest

def ofChar? (c : Char) : Option EmojiRest :=
  if isIndicator c then some (indicators false)
  else if isSkinTone c then some skinTone
  else if isEmoji c then some whole
  else none

/-- What a character makes of a joiner and an emoji after it, and the columns that it adds. -/
def beforeJoined (c : Char) : Option (Int × EmojiRest) :=
  if c = keycap then some (0, joined true)
  else if c = tagEnd then some (0, joinedTags 0 0)
  else if isIndicator c then some (1, joinedIndicators 1)
  else if isSkinTone c then some (0, skinTone)
  else if isEmoji c then some (0, whole)
  else none

/-- Regional indicators make pairs from the first one on. A pair right before the joiner shares the
columns of the emoji after it, and one indicator more moves the pairs by one place. -/
def beforeIndicators (c : Char) (count : Nat) : Option (Int × EmojiRest) :=
  if isIndicator c then some (if count % 2 = 1 then -1 else 3, joinedIndicators (count + 1))
  else if c = joiner ∧ 2 ≤ count then some (0, joined false)
  else none

/-- A name is a country of two letters or three digits and up to four letters or digits more. -/
def beforeTags (c : Char) (digits letters : Nat) : Option (Int × EmojiRest) :=
  if isTagLetter c && digits == 0 && letters < 6 then some (0, joinedTags 0 (letters + 1))
  else if isTagDigit c && digits < 3 && (digits != 0 || letters ≤ 4) then
    some (0, joinedTags (digits + 1) letters)
  else if c == '🏴' && (digits == 3 || (digits == 0 && 3 ≤ letters)) then some (0, whole)
  else none

/-- What a character makes of the rest after it, and the columns that it adds, if it is a part of
the same emoji. -/
def before (c : Char) : EmojiRest → Option (Int × EmojiRest)
  | whole => if c = joiner then some (0, joined false) else none
  | skinTone =>
    if takesSkinTone c then some (0, whole)
    else if c = joiner then some (0, joined false)
    else none
  | indicators several =>
    if isIndicator c then some (1, indicators true)
    else if c = joiner ∧ several then some (0, joined false)
    else none
  | joined false => beforeJoined c
  | joined true => none
  | joinedIndicators count => beforeIndicators c count
  | joinedTags digits letters => beforeTags c digits letters

end EmojiRest

end Phrasebook.Text
