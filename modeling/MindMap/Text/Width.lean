import MindMap.Text.Given
import MindMap.Text.Ligature
import MindMap.Text.Picture

/-!
# Display width

The number of terminal cells a text takes. Most texts are as wide as their characters together: two
cells for wide East Asian characters and pictures, none for marks, one for the rest, control
characters included. Some sequences draw as one picture or one ligature, so the width of a character
depends on what follows it. The text is therefore read from its end, and `Following` holds what the
characters already read mean to the one before them.
-/

namespace MindMap.Text

/-- The width of a character on its own. -/
def charWidth (c : Char) : Nat :=
  if c.toNat ≤ 0xA0 then 1
  else if c.toNat = 0x17D8 then 3
  else if zeroWidth.contains c then 0
  else if doubleWidth.contains c then 2
  else 1

/-- What the text after a character means for that character's width. -/
inductive Following where
  | plain
  | lineFeed
  | picture (head : PictureHead)
  | ligature (head : LigatureHead)
  /-- A selector that asks for a picture, the letter after it that may merge, and whether a joiner that
  ties a picture comes after it. -/
  | pictureSelector (joined : Bool) (after : Option LigatureHead)
  /-- A selector that asks for text, and the letter after it that may merge. -/
  | textSelector (after : Option LigatureHead)
deriving DecidableEq, Repr, Inhabited

namespace Following

/-- A letter that may merge, if there is one. -/
def ofLigature : Option LigatureHead → Following
  | some head => .ligature head
  | none => .plain

/-- What a character means for the one before it, when it stands in no sequence. -/
def ofChar (c : Char) : Following :=
  if c.toNat ≤ 0xA0 then .plain
  else match PictureHead.ofChar? c with
    | some head => .picture head
    | none => .ofLigature (LigatureHead.ofChar? c)

/-- The letter that may merge across a selector. -/
def acrossSelector : Following → Option LigatureHead
  | .ligature head => some head
  | _ => none

/-- Whether a picture is tied to whatever a selector makes a picture. -/
def tied : Following → Bool
  | .picture .joined | .picture .joinedKeycap => true
  | _ => false

/-- The width that `c` adds before text that begins with no selector, and what both mean together. -/
def addCharacter (following : Following) (c : Char) : Int × Following :=
  if c = '\n' then (1, .lineFeed)
  else if c = '\r' && following = .lineFeed then (0, .plain)
  else if c.toNat ≤ 0xA0 then (1, .plain)
  else if c = '\ufe0f' then (0, .pictureSelector following.tied following.acrossSelector)
  else if c = '\ufe0e' then (0, .textSelector following.acrossSelector)
  else
    let continued : Option (Int × Following) := match following with
      | .picture head => (head.add? c).map fun (added, next) => (added, .picture next)
      | .ligature head => (head.add? c).map fun (added, next) => (added, .ofLigature next)
      | _ => none
    continued.getD (charWidth c, .ofChar c)

/-- The width that `c` adds before text that means `following`, and what both mean together. A selector
after a character that it has no form for is passed over. -/
def add (following : Following) (c : Char) : Int × Following :=
  match following with
  | .pictureSelector joined after =>
    if hasPicture c then (if joined then 0 else 2, .picture .whole)
    else (ofLigature after).addCharacter c
  | .textSelector after =>
    if hasNarrowText c then (1, .plain) else (ofLigature after).addCharacter c
  | following => following.addCharacter c

end Following

/-- The width of a text and what it means to a character before it. -/
def measure (text : List Char) : Int × Following :=
  text.foldr (fun c (total, following) =>
    let (added, next) := following.add c
    (total + added, next)) (0, .plain)

/-- The number of cells a text takes. -/
def width (text : String) : Nat := (measure text.toList).1.toNat

/-- The widths of terminals. -/
@[reducible] def terminalWidth : TextWidth := ⟨width⟩

end MindMap.Text
