import MindMap.Text.CodePoints

/-!
# Blank characters

A character is blank when it has the Unicode property White_Space. Words on a command line end at a
blank, names and ids that hold nothing but blanks count as empty, and both ends of a text can be
trimmed of them.
-/

namespace MindMap.Text

/-- The characters of the property White_Space. -/
def whiteSpace : CodePoints := .ofBoundaries
  [0x9, 0xE, 0x20, 0x21, 0x85, 0x86, 0xA0, 0xA1, 0x1680, 0x1681, 0x2000, 0x200B, 0x2028, 0x202A,
   0x202F, 0x2030, 0x205F, 0x2060, 0x3000, 0x3001]

/-- Whether a character is white space. -/
def isBlank (c : Char) : Bool := whiteSpace.contains c

/-- Spaces, `count` of them. -/
def spaces (count : Nat) : String := .ofList (.replicate count ' ')

/-- Whether a text holds nothing but blanks; the empty text does. -/
def allBlank (text : String) : Bool := text.toList.all isBlank

/-- A text without its leading blanks. -/
def trimStart (text : String) : String := .ofList (text.toList.dropWhile isBlank)

/-- A text without its trailing blanks. -/
def trimEnd (text : String) : String :=
  .ofList (text.toList.reverse.dropWhile isBlank).reverse

/-- A text without the blanks at its two ends. -/
def trim (text : String) : String := trimEnd (trimStart text)

/-- Trimming at the start drops the leading blanks. -/
theorem toList_trimStart (text : String) :
    (trimStart text).toList = text.toList.dropWhile isBlank := by
  simp [trimStart]

end MindMap.Text
