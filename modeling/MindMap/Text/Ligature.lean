import MindMap.Text.WidthProperties

/-!
# Ligatures

Some scripts draw certain letters as one sign, which takes fewer cells than its letters. A text is read
from its end: `LigatureHead` is a letter, or a sequence, that merges with the right letter before it, and
`LigatureHead.add?` tells what a character before it adds.

Marks that are not shown may stand anywhere in a ligature, and so may joiners, except in Arabic.
-/

namespace MindMap.Text

/-- The forms of lam that merge with a following alef. -/
def isLam (c : Char) : Bool :=
  c.toNat == 0x644 || (0x6B5 ≤ c.toNat && c.toNat ≤ 0x6B8) || c.toNat == 0x76A ||
    c.toNat == 0x8A6 || c.toNat == 0x8C7

/-- The forms of alef that merge with a lam before them. -/
def isAlef (c : Char) : Bool :=
  c.toNat == 0x622 || c.toNat == 0x623 || c.toNat == 0x625 || c.toNat == 0x627 ||
    (0x671 ≤ c.toNat && c.toNat ≤ 0x673) || c.toNat == 0x675 || c.toNat == 0x773 ||
    c.toNat == 0x774 || (0x870 ≤ c.toNat && c.toNat ≤ 0x882)

/-- The Tifinagh consonants that merge. -/
def isTifinaghConsonant (c : Char) : Bool :=
  (0x2D31 ≤ c.toNat && c.toNat ≤ 0x2D65) || c.toNat == 0x2D6F

/-- The Lisu tone letters that end a tone of two letters. -/
def isLisuToneEnd (c : Char) : Bool := c.toNat == 0xA4FC || c.toNat == 0xA4FD

/-- The Lisu tone letters that begin a tone of two letters. -/
def isLisuToneStart (c : Char) : Bool := 0xA4F8 ≤ c.toNat && c.toNat ≤ 0xA4FB

/-- The Khmer letters that have a form below the line. -/
def isKhmerSubscript (c : Char) : Bool :=
  let code := c.toNat
  (0x1780 ≤ code && code ≤ 0x1782) || (0x1784 ≤ code && code ≤ 0x1787) ||
    (0x1789 ≤ code && code ≤ 0x178C) || (0x178E ≤ code && code ≤ 0x1793) ||
    (0x1795 ≤ code && code ≤ 0x1798) || (0x179B ≤ code && code ≤ 0x179D) ||
    code == 0x17A0 || code == 0x17A2 || code == 0x17A7 || code == 0x17AB || code == 0x17AC ||
    code == 0x17AF

/-- Whether a mark that is not shown. -/
def isHiddenMark (c : Char) : Bool :=
  let code := c.toNat
  code == 0x34F || code == 0x17B4 || code == 0x17B5 || (0x180B ≤ code && code ≤ 0x180D) ||
    code == 0x180F || (0xFE00 ≤ code && code ≤ 0xFE0F) || (0xE0100 ≤ code && code ≤ 0xE01EF)

/-- Whether Arabic letters join across a character. -/
def joinsAcross (c : Char) : Bool := zeroWidth.contains c && !joiningBreakers.contains c

/-- What the letter that a text begins with may merge with. The flags say whether a joiner precedes it. -/
inductive LigatureHead where
  | alef
  | lamed (joined : Bool)
  | ya (joined : Bool)
  /-- A Buginese ya and the vowel before it, joined. -/
  | vowelYa
  | tifinagh (joined : Bool)
  /-- A Tifinagh consonant and the sign that joins it. -/
  | signTifinagh
  | lisuTone
  | orkhonI (joined : Bool)
  | khmerSubscript
deriving DecidableEq, Repr, Inhabited

namespace LigatureHead

/-- The ligature that a character may end. -/
def ofChar? (c : Char) : Option LigatureHead :=
  if isAlef c then some .alef
  else if c.toNat = 0x5DC then some (.lamed false)
  else if isKhmerSubscript c then some .khmerSubscript
  else if c.toNat = 0x1A10 then some (.ya false)
  else if isTifinaghConsonant c then some (.tifinagh false)
  else if isLisuToneEnd c then some .lisuTone
  else if c.toNat = 0x10C03 then some (.orkhonI false)
  else none

/-- The same letters with a joiner before them. -/
def join : LigatureHead → LigatureHead
  | .lamed _ => .lamed true
  | .ya _ => .ya true
  | .tifinagh _ => .tifinagh true
  | .orkhonI _ => .orkhonI true
  | head => head

/-- What a letter before a ligature adds to its width. With it the ligature is whole, unless more of it
may come. -/
def addLetter? (head : LigatureHead) (c : Char) : Option (Int × Option LigatureHead) :=
  match head with
  | .alef => if isLam c then some (0, none) else none
  | .lamed joined => if joined && c.toNat = 0x5D0 then some (0, none) else none
  | .ya joined => if joined && c.toNat = 0x1A17 then some (0, some .vowelYa) else none
  | .vowelYa => if c.toNat = 0x1A15 then some (0, none) else none
  | .tifinagh joined =>
    if c.toNat = 0x2D7F then some (1, some .signTifinagh)
    else if joined && isTifinaghConsonant c then some (0, none)
    else none
  | .signTifinagh => if isTifinaghConsonant c then some (-1, none) else none
  | .lisuTone => if isLisuToneStart c then some (0, none) else none
  | .orkhonI joined => if joined && c.toNat = 0x10C32 then some (0, none) else none
  | .khmerSubscript => if c.toNat = 0x17D2 then some (-1, none) else none

/-- What a character before a ligature adds to its width, and what may still merge; nothing if it is no
part of it. -/
def add? (head : LigatureHead) (c : Char) : Option (Int × Option LigatureHead) :=
  if head = .alef then
    if joinsAcross c then some (0, some .alef) else head.addLetter? c
  else if c = '\u200d' then some (0, some head.join)
  else if isHiddenMark c then some (0, some head)
  else head.addLetter? c

end LigatureHead

end MindMap.Text
