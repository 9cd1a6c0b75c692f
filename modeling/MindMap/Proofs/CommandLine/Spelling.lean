import MindMap.CommandLine.Words

/-!
# Spellings of words

How words can be written on a command line, as a grammar that stands beside the reader. A word is
written in parts, one after another without a blank: a part is quoted, in either quote, or bare, and
a backslash stands before each character that would otherwise end the part, open a quotation or
escape. Words are kept apart by blanks. Whatever is written by this grammar reads as the words it
was written for: `words_of_spellsLine`.

The grammar leaves out what the reader forgives: a backslash before a character that it does not
escape, or at the end of a line, stands for itself.
-/

namespace MindMap.CommandLine

/-! ### The grammar -/

/-- A character, after a backslash if it is special. -/
def escapeChar (special : Char → Bool) (c : Char) : List Char :=
  if special c then ['\\', c] else [c]

/-- A text with a backslash before each of its special characters. -/
def escape (special : Char → Bool) (text : List Char) : List Char :=
  text.flatMap (escapeChar special)

/-- What must be escaped inside a quotation. -/
def isSpecialInside (quote c : Char) : Bool := c = quote || c = '\\'

/-- What must be escaped outside quotations. -/
def isSpecialOutside (c : Char) : Bool := isQuote c || c = '\\'

/-- The ways to write a part of a word. -/
inductive SpellsPart : List Char → List Char → Prop where
  | quoted {quote : Char} (isQuote : isQuote quote = true) (text : List Char) :
      SpellsPart text (quote :: (escape (isSpecialInside quote) text ++ [quote]))
  | bare {text : List Char} (notEmpty : text ≠ [])
      (noBlank : ∀ c ∈ text, Text.isBlank c = false) :
      SpellsPart text (escape isSpecialOutside text)

/-- The ways to write a word: in one part or more. -/
inductive SpellsWord : List Char → List Char → Prop where
  | part {text written : List Char} (spells : SpellsPart text written) : SpellsWord text written
  | parts {text written others othersWritten : List Char} (first : SpellsPart text written)
      (rest : SpellsWord others othersWritten) :
      SpellsWord (text ++ others) (written ++ othersWritten)

/-- A text of blanks alone. -/
def IsGap (text : List Char) : Prop := ∀ c ∈ text, Text.isBlank c = true

instance (text : List Char) : Decidable (IsGap text) :=
  List.decidableBAll (fun c => Text.isBlank c = true) text

/-- The ways to write one word or more, from the first character of the first. -/
inductive SpellsWords : List String → List Char → Prop where
  | last {word : String} {written trailing : List Char} (spells : SpellsWord word.toList written)
      (gap : IsGap trailing) : SpellsWords [word] (written ++ trailing)
  | cons {word : String} {others : List String} {written between othersWritten : List Char}
      (spells : SpellsWord word.toList written) (gap : IsGap between) (apart : between ≠ [])
      (rest : SpellsWords others othersWritten) :
      SpellsWords (word :: others) (written ++ (between ++ othersWritten))

/-- The ways to write a line of words. -/
inductive SpellsLine : List String → List Char → Prop where
  | blank {line : List Char} (gap : IsGap line) : SpellsLine [] line
  | words {list : List String} {leading written : List Char} (gap : IsGap leading)
      (spells : SpellsWords list written) : SpellsLine list (leading ++ written)

/-! ### Reading -/

theorem ne_backslash_of_isQuote {c : Char} (quote : isQuote c = true) : c ≠ '\\' := by
  rintro rfl
  exact absurd quote (by decide)

/-- A blank ends a word: it neither opens a quotation nor escapes. -/
theorem isSpecialOutside_of_isBlank {c : Char} (blank : Text.isBlank c = true) :
    isSpecialOutside c = false := by
  refine eq_false_of_ne_true fun special => ?_
  simp only [isSpecialOutside, isQuote, Bool.or_eq_true, decide_eq_true_eq] at special
  rcases special with (rfl | rfl) | rfl <;> exact absurd blank (by decide)

namespace Scan

variable {scan : Scan} {ended : List String}

/-- Between two characters, outside quotations. -/
structure Outside (scan : Scan) (ended : List String) (word : Option String) : Prop where
  words : scan.words = ended
  word : scan.word = word
  quotation : scan.quotation = none
  escaping : scan.escaping = false

/-- Between two characters, inside a quotation. -/
structure Inside (scan : Scan) (ended : List String) (word : String) (quote : Char) : Prop where
  words : scan.words = ended
  word : scan.word = some word
  quotation : ∃ position, scan.quotation = some ⟨quote, position⟩
  escaping : scan.escaping = false

theorem outside_start : start.Outside [] none := ⟨rfl, rfl, rfl, rfl⟩

namespace Inside

variable {word : String} {quote : Char}

/-- A character of a quotation goes into the word. -/
theorem char (inside : scan.Inside ended word quote) (c : Char) :
    ((escapeChar (isSpecialInside quote) c).foldl read scan).Inside ended (word.push c) quote := by
  obtain ⟨rfl, hasWord, ⟨position, opened⟩, notEscaping⟩ := inside
  unfold escapeChar
  split
  · next special =>
    have escapes : c = quote ∨ c = '\\' := by simpa [isSpecialInside] using special
    constructor <;> simp [read, take, takePlain, Scan.escapes, extend, *]
  · next plain =>
    have itself : c ≠ quote ∧ c ≠ '\\' := by simpa [isSpecialInside] using plain
    constructor <;> simp [read, take, takePlain, extend, *]

theorem text (inside : scan.Inside ended word quote) (text : List Char) :
    ((escape (isSpecialInside quote) text).foldl read scan).Inside ended
      (word ++ String.ofList text) quote := by
  induction text generalizing scan word with
  | nil => simpa [escape] using inside
  | cons c rest inductionHypothesis =>
    have later := inductionHypothesis (inside.char c)
    have joined : word.push c ++ String.ofList rest = word ++ String.ofList (c :: rest) := by
      simp [← String.toList_inj]
    rwa [joined, ← List.foldl_append] at later

/-- The quote that opened a quotation closes it. -/
theorem close (inside : scan.Inside ended word quote) (isQuote : isQuote quote = true) :
    (scan.read quote).Outside ended (some word) := by
  obtain ⟨rfl, hasWord, ⟨position, opened⟩, notEscaping⟩ := inside
  have plain := ne_backslash_of_isQuote isQuote
  constructor <;> simp [read, take, takePlain, *]

end Inside

namespace Outside

variable {word : Option String}

theorem openQuote (outside : scan.Outside ended word) {quote : Char}
    (isQuote : isQuote quote = true) :
    (scan.read quote).Inside ended (word.getD "") quote := by
  obtain ⟨rfl, rfl, notInside, notEscaping⟩ := outside
  have plain := ne_backslash_of_isQuote isQuote
  constructor <;> simp [read, take, takePlain, *]

/-- A character outside quotations that is no blank goes into the word. -/
theorem char (outside : scan.Outside ended word) {c : Char} (noBlank : Text.isBlank c = false) :
    ((escapeChar isSpecialOutside c).foldl read scan).Outside ended
      (some ((word.getD "").push c)) := by
  obtain ⟨rfl, rfl, notInside, notEscaping⟩ := outside
  unfold escapeChar
  split
  · next special =>
    have escapes : isQuote c = true ∨ c = '\\' := by simpa [isSpecialOutside] using special
    constructor <;> simp [read, take, takePlain, Scan.escapes, extend, *]
  · next plain =>
    have itself : isQuote c = false ∧ c ≠ '\\' := by simpa [isSpecialOutside] using plain
    constructor <;> simp [read, take, takePlain, extend, *]

theorem bare (outside : scan.Outside ended word) {text : List Char} (notEmpty : text ≠ [])
    (noBlank : ∀ c ∈ text, Text.isBlank c = false) :
    ((escape isSpecialOutside text).foldl read scan).Outside ended
      (some (word.getD "" ++ String.ofList text)) := by
  induction text generalizing scan word with
  | nil => exact absurd rfl notEmpty
  | cons c rest inductionHypothesis =>
    have first := outside.char (noBlank c List.mem_cons_self)
    by_cases last : rest = []
    · subst last
      simpa [escape] using first
    · have later := inductionHypothesis first last fun other member =>
        noBlank other (List.mem_cons_of_mem _ member)
      have joined : (some ((word.getD "").push c)).getD "" ++ String.ofList rest =
          word.getD "" ++ String.ofList (c :: rest) := by
        simp [← String.toList_inj]
      rwa [joined, ← List.foldl_append] at later

/-- A part of a word, however it is written, goes on the word that has been read before it. -/
theorem readPart (outside : scan.Outside ended word) {text written : List Char}
    (spells : SpellsPart text written) :
    (written.foldl read scan).Outside ended (some (word.getD "" ++ String.ofList text)) := by
  cases spells with
  | quoted isQuote =>
    rw [List.foldl_cons, List.foldl_append]
    exact ((outside.openQuote isQuote).text text).close isQuote
  | bare notEmpty noBlank => exact outside.bare notEmpty noBlank

theorem readWord (outside : scan.Outside ended word) {text written : List Char}
    (spells : SpellsWord text written) :
    (written.foldl read scan).Outside ended (some (word.getD "" ++ String.ofList text)) := by
  induction spells generalizing scan word with
  | part spells => exact outside.readPart spells
  | parts first rest inductionHypothesis =>
    have later := inductionHypothesis (outside.readPart first)
    rwa [← List.foldl_append, Option.getD_some, String.append_assoc, ← String.ofList_append]
      at later

theorem blank (outside : scan.Outside ended word) {c : Char} (blank : Text.isBlank c = true) :
    (scan.read c).Outside (word.toList ++ ended) none := by
  obtain ⟨rfl, rfl, notInside, notEscaping⟩ := outside
  have plain : isQuote c = false ∧ c ≠ '\\' := by
    simpa [isSpecialOutside] using isSpecialOutside_of_isBlank blank
  cases hasWord : scan.word <;> constructor <;>
    simp [read, take, takePlain, endWord, *]

/-- Blanks between words are passed over. -/
theorem gap (outside : scan.Outside ended none) {blanks : List Char} (gap : IsGap blanks) :
    (blanks.foldl read scan).Outside ended none := by
  induction blanks generalizing scan with
  | nil => exact outside
  | cons c rest inductionHypothesis =>
    refine inductionHypothesis (outside.blank (gap c List.mem_cons_self)) ?_
    exact fun other member => gap other (List.mem_cons_of_mem _ member)

/-- Blanks behind a word end it. -/
theorem gapBehind (outside : scan.Outside ended word) {blanks : List Char} (gap : IsGap blanks)
    (apart : blanks ≠ []) : (blanks.foldl read scan).Outside (word.toList ++ ended) none := by
  obtain ⟨c, rest, rfl⟩ := List.exists_cons_of_ne_nil apart
  refine (outside.blank (gap c List.mem_cons_self)).gap ?_
  exact fun other member => gap other (List.mem_cons_of_mem _ member)

theorem finish (outside : scan.Outside ended word) :
    scan.finish = .ok (ended.reverse ++ word.toList) := by
  obtain ⟨rfl, rfl, notInside, notEscaping⟩ := outside
  cases hasWord : scan.word <;> simp [Scan.finish, endWord, *]

/-- Whatever words have ended already, the written ones come behind them; the last of them has ended if
a blank came after it. -/
theorem readWords (outside : scan.Outside ended none) {list : List String}
    {written : List Char} (spells : SpellsWords list written) :
    ∃ others word, (written.foldl read scan).Outside others word ∧
      word.toList ++ others = list.reverse ++ ended := by
  induction spells generalizing scan ended with
  | @last word written trailing spells gap =>
    have read := outside.readWord spells
    rw [List.foldl_append]
    by_cases none : trailing = []
    · subst none
      exact ⟨_, _, read, by simp⟩
    · exact ⟨_, _, read.gapBehind gap none, by simp⟩
  | @cons word others written between othersWritten spells gap apart rest inductionHypothesis =>
    have read := (outside.readWord spells).gapBehind gap apart
    obtain ⟨all, last, later, same⟩ := inductionHypothesis read
    refine ⟨all, last, ?_, by simp [same]⟩
    rwa [List.foldl_append, List.foldl_append]

theorem finish_words (outside : scan.Outside ended none) {list : List String}
    {written : List Char} (spells : SpellsWords list written) :
    (written.foldl read scan).finish = .ok (ended.reverse ++ list) := by
  obtain ⟨others, word, read, inOrder⟩ := outside.readWords spells
  have reversed := congrArg List.reverse inOrder
  rw [read.finish]
  cases word <;> simpa using reversed

end Outside

end Scan

/-- Words that are written from the first character of a line on read as themselves. -/
theorem words_of_spellsWords {list : List String} {line : String}
    (spells : SpellsWords list line.toList) : words line = .ok list :=
  Scan.outside_start.finish_words spells

/-- A line reads as the words that it was written for, whichever way they were written. -/
theorem words_of_spellsLine {list : List String} {line : String}
    (spells : SpellsLine list line.toList) : words line = .ok list := by
  unfold words
  generalize line.toList = written at spells ⊢
  cases spells with
  | blank gap => exact (Scan.outside_start.gap gap).finish
  | words gap spells =>
    rw [List.foldl_append]
    exact (Scan.outside_start.gap gap).finish_words spells

/-- Three words: one in three parts, an empty one, and one with a backslash. -/
theorem words_of_mixed_spellings :
    let line := "\t it\\'s' all '\"\\\"\"  '' \u3000a\\\\b "
    SpellsLine ["it's all \"", "", "a\\b"] line.toList ∧
      words line = .ok ["it's all \"", "", "a\\b"] := by
  have noBlank : ∀ {text : List Char}, text.all (fun c => !Text.isBlank c) = true →
      ∀ c ∈ text, Text.isBlank c = false := fun all => by simpa using all
  have bare : SpellsPart "it's".toList "it\\'s".toList := .bare (by decide) (noBlank (by decide))
  have single : SpellsPart " all ".toList "' all '".toList := .quoted rfl " all ".toList
  have double : SpellsPart "\"".toList "\"\\\"\"".toList := .quoted rfl ['"']
  have first : SpellsWord "it's all \"".toList "it\\'s' all '\"\\\"\"".toList :=
    .parts bare (.parts single (.part double))
  have second : SpellsWord "".toList "''".toList := .part (.quoted rfl [])
  have third : SpellsWord "a\\b".toList "a\\\\b".toList :=
    .part (.bare (by decide) (noBlank (by decide)))
  have leading : IsGap "\t ".toList := by decide
  have afterFirst : IsGap "  ".toList := by decide
  have afterSecond : IsGap " \u3000".toList := by decide
  have trailing : IsGap " ".toList := by decide
  have spells : SpellsLine ["it's all \"", "", "a\\b"]
      "\t it\\'s' all '\"\\\"\"  '' \u3000a\\\\b ".toList :=
    .words leading (.cons first afterFirst (by decide)
      (.cons second afterSecond (by decide) (.last third trailing)))
  exact ⟨spells, words_of_spellsLine spells⟩

end MindMap.CommandLine
