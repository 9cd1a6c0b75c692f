import MindMap.Proofs.CommandLine.Spelling

/-!
# Lines that go on

Behind the words of a line, a text is read as it would be read alone, if a blank comes first in it.
The one thing that depends on how those words were written is where a quote that is never closed is
reported to stand, since that is counted in bytes from the beginning of the line: `words_append`.
-/

namespace MindMap.CommandLine

/-- The error as it is reported when `offset` bytes stand before what was read. -/
def LineError.behind (offset : Nat) : LineError → LineError
  | .unclosedQuote quote position => .unclosedQuote quote (offset + position)
  | .noCommand => .noCommand

namespace Scan

/-- The reader of a text behind words that have ended, with `offset` bytes before the text. -/
def behind (scan : Scan) (ended : List String) (offset : Nat) : Scan :=
  { scan with
    words := scan.words ++ ended
    quotation := scan.quotation.map fun opened =>
      { opened with position := offset + opened.position }
    offset := offset + scan.offset }

variable {scan : Scan} {ended : List String} {offset : Nat}

theorem escapes_behind (c : Char) : (scan.behind ended offset).escapes c = scan.escapes c := by
  unfold escapes behind
  cases scan.quotation <;> rfl

theorem takePlain_behind (c : Char) :
    (scan.behind ended offset).takePlain c = (scan.takePlain c).behind ended offset := by
  unfold takePlain
  split
  · rfl
  · cases opened : scan.quotation with
    | some quotation =>
      simp only [behind, opened, Option.map_some]
      split
      · rfl
      · simp [extend, opened]
    | none =>
      simp only [behind, opened, Option.map_none]
      split
      · rfl
      · split
        · cases word : scan.word <;> simp [endWord, word, opened]
        · simp [extend, opened]

/-- Reading goes on behind other words as it would alone. -/
theorem read_behind (c : Char) :
    (scan.behind ended offset).read c = (scan.read c).behind ended offset := by
  have taken : (scan.behind ended offset).take c = (scan.take c).behind ended offset := by
    unfold take
    rw [escapes_behind]
    change (if scan.escaping then _ else _) = _
    split
    · split
      · rfl
      · exact @takePlain_behind { scan.extend '\\' with escaping := false } ended offset c
    · exact takePlain_behind c
  unfold read
  rw [taken]
  simp [behind, Nat.add_assoc]

theorem foldl_read_behind (text : List Char) :
    text.foldl read (scan.behind ended offset) = (text.foldl read scan).behind ended offset := by
  induction text generalizing scan with
  | nil => rfl
  | cons c rest inductionHypothesis =>
    rw [List.foldl_cons, read_behind, inductionHypothesis, List.foldl_cons]

theorem finish_behind :
    (scan.behind ended offset).finish =
      match scan.finish with
      | .ok list => .ok (ended.reverse ++ list)
      | .error error => .error (error.behind offset) := by
  unfold finish
  cases opened : scan.quotation with
  | some quotation => simp [behind, opened, LineError.behind]
  | none =>
    simp only [behind, opened, Option.map_none]
    by_cases escaping : scan.escaping <;> cases word : scan.word <;>
      simp [escaping, word, extend, endWord]

/-- A reader between words has read them and their bytes. -/
theorem Outside.eq_behind {other : Scan} (outside : scan.Outside ended none)
    (alone : other.Outside [] none) (offsets : scan.offset = offset + other.offset) :
    scan = other.behind ended offset := by
  obtain ⟨words, word, quotation, escaping⟩ := outside
  obtain ⟨otherWords, otherWord, otherQuotation, otherEscaping⟩ := alone
  cases scan
  cases other
  simp_all [behind]

/-- The reader once a backslash that came last stands for itself. -/
def settleEscape (scan : Scan) : Scan :=
  if scan.escaping then { scan.extend '\\' with escaping := false } else scan

theorem outside_settleEscape (notInside : scan.quotation = none) :
    scan.settleEscape.Outside scan.settleEscape.words scan.settleEscape.word := by
  unfold settleEscape
  split
  · exact ⟨rfl, rfl, notInside, rfl⟩
  · next notEscaping => exact ⟨rfl, rfl, notInside, eq_false_of_ne_true notEscaping⟩

/-- At the end of a line a backslash stands for itself, -/
theorem finish_settleEscape : scan.settleEscape.finish = scan.finish := by
  unfold settleEscape finish
  by_cases escaping : scan.escaping = true
  · cases opened : scan.quotation <;> simp [escaping, opened, extend, endWord]
  · simp [escaping]

/-- and before a blank it does too. -/
theorem read_settleEscape {c : Char} (notInside : scan.quotation = none)
    (blank : Text.isBlank c = true) : scan.settleEscape.read c = scan.read c := by
  have notSpecial := isSpecialOutside_of_isBlank blank
  have notEscaped : scan.escapes c = false := by
    unfold escapes
    rwa [notInside]
  unfold settleEscape
  by_cases escaping : scan.escaping = true
  · rw [if_pos escaping]
    unfold read take
    rw [if_pos escaping, notEscaped]
    rfl
  · rw [if_neg escaping]

/-- A blank behind a line that can be read ends its last word. -/
theorem outside_read_of_finish {list : List String} {c : Char} (finished : scan.finish = .ok list)
    (blank : Text.isBlank c = true) : (scan.read c).Outside list.reverse none := by
  have notInside : scan.quotation = none := by
    unfold finish at finished
    split at finished
    · cases finished
    · assumption
  have outside := outside_settleEscape notInside
  have same := outside.finish.symm.trans (finish_settleEscape.trans finished)
  have after := outside.blank blank
  rw [read_settleEscape notInside blank] at after
  obtain rfl := Except.ok.inj same
  cases word : scan.settleEscape.word <;> simpa [word] using after

end Scan

/-- A text that is empty or begins with a blank. -/
def StartsApart (text : String) : Prop := ∀ c ∈ text.toList.head?, Text.isBlank c = true

instance (text : String) : Decidable (StartsApart text) :=
  Option.decidableForallMem text.toList.head?

theorem LineError.behind_behind (error : LineError) (first second : Nat) :
    (error.behind second).behind first = error.behind (first + second) := by
  cases error <;> simp [LineError.behind, Nat.add_assoc]

/-- Behind a line that can be read and a blank, a text reads as it would alone. -/
theorem words_append_blank {list : List String} {head : String} {c : Char}
    (read : words head = .ok list) (blank : Text.isBlank c = true) (rest : String) :
    words (head ++ String.singleton c ++ rest) =
      match words rest with
      | .ok more => .ok (list ++ more)
      | .error error => .error (error.behind (head ++ String.singleton c).utf8ByteSize) := by
  have outside := Scan.outside_read_of_finish read blank
  have counted : ((head.toList.foldl Scan.read .start).read c).offset =
      (head ++ String.singleton c).utf8ByteSize + Scan.start.offset := by
    have bytes := offset_foldl_read .start head.toList
    rw [String.ofList_toList] at bytes
    simp only [Scan.read, bytes, String.utf8ByteSize_append, String.utf8ByteSize_singleton]
    omega
  have behind := outside.eq_behind Scan.outside_start counted
  have inParts : (head ++ String.singleton c ++ rest).toList.foldl Scan.read .start =
      rest.toList.foldl Scan.read ((head.toList.foldl Scan.read .start).read c) := by
    simp
  unfold words
  rw [inParts, behind, Scan.foldl_read_behind, Scan.finish_behind, List.reverse_reverse]

/-- A line is the words at its head and what the rest of it reads as. -/
theorem words_append {list : List String} {head rest : String} (read : words head = .ok list)
    (apart : StartsApart rest) :
    words (head ++ rest) =
      match words rest with
      | .ok more => .ok (list ++ more)
      | .error error => .error (error.behind head.utf8ByteSize) := by
  cases restIs : rest.toList with
  | nil =>
    obtain rfl : rest = "" := String.toList_eq_nil_iff.mp restIs
    have alone : words "" = .ok [] := rfl
    rw [String.append_empty, read, alone]
    simp
  | cons c others =>
    have blank : Text.isBlank c = true := apart c (by simp [restIs])
    have split : rest = String.singleton c ++ String.ofList others := by
      simp [← String.toList_inj, restIs]
    have alone := words_append_blank (show words "" = .ok [] from rfl) blank (String.ofList others)
    rw [String.empty_append, ← split] at alone
    rw [alone, split, ← String.append_assoc, words_append_blank read blank]
    cases words (String.ofList others) with
    | ok more => rfl
    | error error =>
      simp only [LineError.behind_behind, String.utf8ByteSize_append]

end MindMap.CommandLine
