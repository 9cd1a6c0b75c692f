import MindMap.Text.Grapheme
import MindMap.Text.WidthProperties

/-!
# Pictures of several characters

A flag, a family, a hand with a skin tone: several characters that draw as one picture of two cells. A
text is read from its end, so the question is always the same: what does a character before a picture
add to it? `PictureHead` is what has to be known of a picture for that, and `PictureHead.add?` answers.
-/

namespace MindMap.Text

/-- Whether a skin-tone modifier. -/
def isSkinTone (c : Char) : Bool := 0x1F3FB ≤ c.toNat && c.toNat ≤ 0x1F3FF

/-- Whether a selector can ask for the picture of a character. -/
def hasPicture (c : Char) : Bool := textByDefault.contains c || pictureOrText.contains c

/-- Whether a selector can ask for a character, a picture by default, as narrow text. Ideographs in a
square stay wide. -/
def hasNarrowText (c : Char) : Bool :=
  pictureOrText.contains c && !(0x1F200 ≤ c.toNat && c.toNat < 0x1F300)

/-- The tags that name the region of a flag, as far as they have been read from their end: the letters
at the end and the digits before them. -/
structure FlagTags where
  letters : Nat
  digits : Nat
deriving DecidableEq, Repr, Inhabited

namespace FlagTags

/-- The end of the tags, with none read yet. -/
def ended : FlagTags := ⟨0, 0⟩

/-- The tags with one more before them. A region is three digits or two letters, and its subdivision up
to four letters. -/
def add? (tags : FlagTags) (c : Char) : Option FlagTags :=
  if 0xE0061 ≤ c.toNat && c.toNat ≤ 0xE007A then
    if tags.digits = 0 && tags.letters < 6 then some { tags with letters := tags.letters + 1 } else none
  else if 0xE0030 ≤ c.toNat && c.toNat ≤ 0xE0039 then
    if tags.letters ≤ 4 && tags.digits < 3 then some { tags with digits := tags.digits + 1 } else none
  else none

/-- Whether the tags name a region. -/
def complete (tags : FlagTags) : Bool :=
  tags.digits = 3 || (tags.digits = 0 && 3 ≤ tags.letters)

end FlagTags

/-- What a picture that a text begins with means to the character before it. -/
inductive PictureHead where
  | whole
  | skinTone
  | regional
  | regionals
  /-- A joiner that ties the next picture to this one. -/
  | joined
  /-- A joiner and the frame of a keycap that it ties. -/
  | joinedKeycap
  | joinedRegional
  | joinedRegionals (odd : Bool)
  | joinedTags (tags : FlagTags)
deriving DecidableEq, Repr, Inhabited

namespace PictureHead

/-- The picture that begins with a character. -/
def ofChar? (c : Char) : Option PictureHead :=
  if isRegional c.toNat then some .regional
  else if isSkinTone c then some .skinTone
  else if pictureByDefault.contains c then some .whole
  else none

/-- Whether a joiner may tie a picture to the one before it. -/
def joinable : PictureHead → Bool
  | .whole | .skinTone | .regionals | .joinedRegionals _ => true
  | _ => false

/-- What a character adds to the width of a joined picture, and what it makes of it. -/
def addJoined? (c : Char) : Option (Int × PictureHead) :=
  if c = '\u20e3' then some (0, .joinedKeycap)
  else if isRegional c.toNat then some (1, .joinedRegional)
  else if isSkinTone c then some (0, .skinTone)
  else if c.toNat = 0xE007F then some (0, .joinedTags .ended)
  else if pictureByDefault.contains c then some (0, .whole)
  else none

/-- What a character before a picture adds to its width, and what it makes of it; nothing if it is no
part of it. -/
def add? (head : PictureHead) (c : Char) : Option (Int × PictureHead) :=
  if c = '\u200d' && head.joinable then some (0, .joined)
  else match head with
    | .whole | .joinedKeycap => none
    | .skinTone => if modifierBases.contains c then some (0, .whole) else none
    | .regional | .regionals => if isRegional c.toNat then some (1, .regionals) else none
    | .joined => addJoined? c
    | .joinedRegional => if isRegional c.toNat then some (-1, .joinedRegionals false) else none
    | .joinedRegionals odd =>
      if isRegional c.toNat then some (if odd then -1 else 3, .joinedRegionals !odd) else none
    | .joinedTags tags =>
      if c.toNat = 0x1F3F4 && tags.complete then some (0, .whole)
      else (tags.add? c).map fun longer => (0, .joinedTags longer)

end PictureHead

end MindMap.Text
