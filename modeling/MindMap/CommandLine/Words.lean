import MindMap.Text.Blank

/-!
# Words of a command line

A command line is a sequence of words with blanks between them. Quotes, single or double, group blanks
into a word and are dropped; inside them a backslash escapes the quote that is open and another
backslash, and outside it escapes either quote and a backslash. Before any other character, and at the
end of the line, a backslash stands for itself. A quoted empty text is still a word.

The line is read one character at a time. `Scan` is what is known after some prefix of it.
-/

namespace MindMap.CommandLine

/-- Why a line is no command. -/
inductive LineError where
  /-- A quote that is never closed, and the number of bytes before it. -/
  | unclosedQuote (quote : Char) (position : Nat)
  /-- A line without words. -/
  | noCommand
deriving DecidableEq, Repr

/-- What the error tells the user. -/
def LineError.message : LineError → String
  | .unclosedQuote quote position =>
    s!"Unclosed quote ({quote}) starting at position {position}"
  | .noCommand => "No command provided"

/-- Whether a character opens a quotation. -/
def isQuote (c : Char) : Bool := c = '\'' || c = '"'

/-- A quotation that is open. -/
structure OpenQuote where
  quote : Char
  /-- The number of bytes before the opening quote. -/
  position : Nat
deriving DecidableEq, Repr

/-- The state of a reader of words. -/
structure Scan where
  /-- The words that have ended, latest first. -/
  words : List String
  /-- The word being read. -/
  word : Option String
  quotation : Option OpenQuote
  /-- Whether the last character was a backslash that may still escape the next one. -/
  escaping : Bool
  /-- The number of bytes read. -/
  offset : Nat
deriving DecidableEq, Repr

namespace Scan

/-- Nothing has been read. -/
def start : Scan := ⟨[], none, none, false, 0⟩

/-- Add a character to the word being read, or begin a word with it. -/
def extend (scan : Scan) (c : Char) : Scan :=
  { scan with word := some ((scan.word.getD "").push c) }

/-- End the word being read, if there is one. -/
def endWord (scan : Scan) : Scan :=
  match scan.word with
  | none => scan
  | some word => { scan with words := word :: scan.words, word := none }

/-- Whether a backslash here escapes `c`. -/
def escapes (scan : Scan) (c : Char) : Bool :=
  match scan.quotation with
  | some opened => c = opened.quote || c = '\\'
  | none => isQuote c || c = '\\'

/-- Take in a character that no backslash escapes, leaving the offset to the caller. -/
def takePlain (scan : Scan) (c : Char) : Scan :=
  if c = '\\' then { scan with escaping := true }
  else match scan.quotation with
    | some opened =>
      if c = opened.quote then { scan with quotation := none } else scan.extend c
    | none =>
      if isQuote c then
        { scan with quotation := some ⟨c, scan.offset⟩, word := some (scan.word.getD "") }
      else if Text.isBlank c then scan.endWord
      else scan.extend c

/-- Take in a character, leaving the offset to the caller. -/
def take (scan : Scan) (c : Char) : Scan :=
  if scan.escaping then
    if scan.escapes c then { scan.extend c with escaping := false }
    else { scan.extend '\\' with escaping := false }.takePlain c
  else scan.takePlain c

/-- Read one character. -/
def read (scan : Scan) (c : Char) : Scan :=
  { scan.take c with offset := scan.offset + c.utf8Size }

/-- The words once the line has ended. -/
def finish (scan : Scan) : Except LineError (List String) :=
  match scan.quotation with
  | some opened => .error (.unclosedQuote opened.quote opened.position)
  | none =>
    let ended := if scan.escaping then scan.extend '\\' else scan
    .ok ended.endWord.words.reverse

end Scan

/-- The words of a line. -/
def words (line : String) : Except LineError (List String) :=
  (line.toList.foldl Scan.read .start).finish

/-- A reader counts bytes. -/
theorem offset_foldl_read (scan : Scan) (text : List Char) :
    (text.foldl Scan.read scan).offset = scan.offset + (String.ofList text).utf8ByteSize := by
  induction text generalizing scan with
  | nil => simp
  | cons c rest inductionHypothesis =>
    have split : String.ofList (c :: rest) = String.singleton c ++ String.ofList rest := by simp
    rw [List.foldl_cons, inductionHypothesis, split, String.utf8ByteSize_append,
      String.utf8ByteSize_singleton]
    simp only [Scan.read, Nat.add_assoc]

end MindMap.CommandLine
