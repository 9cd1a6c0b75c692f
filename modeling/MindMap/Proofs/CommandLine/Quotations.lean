import Mathlib.Data.List.Induction
import MindMap.Proofs.CommandLine.Continuation

/-!
# Lines in pieces

A line that can be read may be followed by a blank and any other text: both read as they would alone,
and only the place of a quote that is never closed moves, by the bytes before the other text. That place
is where the quote stands on the line, and the line up to it can be read: `words_in_pieces`.

What carries the second half is that a quotation remembers where it was opened, and that it was opened
outside of any other.
-/

namespace MindMap.CommandLine

namespace Scan

variable {scan : Scan} {opened : OpenQuote} {error : LineError}

theorem quotation_endWord (scan : Scan) : scan.endWord.quotation = scan.quotation := by
  unfold endWord
  split <;> rfl

/-! ### Where a quotation opens -/

/-- The quotation that is open after a character was open before it, or this character opened it. -/
def OpensAt (scan : Scan) (c : Char) (opened : OpenQuote) : Prop :=
  scan.quotation = some opened ∨
    scan.quotation = none ∧ isQuote c = true ∧ opened = ⟨c, scan.offset⟩

theorem opensAt_takePlain {c : Char} (isOpen : (scan.takePlain c).quotation = some opened) :
    scan.OpensAt c opened := by
  unfold takePlain at isOpen
  split at isOpen
  · exact .inl isOpen
  · cases inside : scan.quotation with
    | some other =>
      simp only [inside] at isOpen
      split at isOpen
      · cases isOpen
      · exact .inl isOpen
    | none =>
      simp only [inside] at isOpen
      split at isOpen
      · next quote =>
        cases isOpen
        exact .inr ⟨inside, quote, rfl⟩
      · split at isOpen
        · rw [quotation_endWord] at isOpen
          exact .inl isOpen
        · exact .inl isOpen

theorem opensAt_read {c : Char} (isOpen : (scan.read c).quotation = some opened) :
    scan.OpensAt c opened := by
  change (scan.take c).quotation = some opened at isOpen
  unfold take at isOpen
  split at isOpen
  · split at isOpen
    · exact .inl isOpen
    · -- a backslash that stands for itself changes neither the quotation nor the offset
      have opens : OpensAt { scan.extend '\\' with escaping := false } c opened :=
        opensAt_takePlain isOpen
      exact opens
  · exact opensAt_takePlain isOpen

/-- The quote of an open quotation stands at its position, behind a text with no open quotation. -/
theorem exists_opening {text : List Char} (isOpen : (text.foldl read start).quotation = some opened) :
    ∃ before after, text = before ++ opened.quote :: after ∧ isQuote opened.quote = true ∧
      opened.position = (String.ofList before).utf8ByteSize ∧
      (before.foldl read start).quotation = none := by
  induction text using List.reverseRecOn with
  | nil => cases isOpen
  | append_singleton text c inductionHypothesis =>
    rw [List.foldl_append] at isOpen
    rcases opensAt_read isOpen with still | ⟨closed, quote, rfl⟩
    · obtain ⟨before, after, rfl, stands⟩ := inductionHypothesis still
      exact ⟨before, after ++ [c], by simp, stands⟩
    · have bytes := offset_foldl_read start text
      exact ⟨text, [], rfl, quote, bytes.trans (Nat.zero_add _), closed⟩

/-! ### The end of a line -/

/-- A line can be read if it ends outside of quotations, -/
theorem exists_finish_of_closed (closed : scan.quotation = none) : ∃ list, scan.finish = .ok list := by
  unfold finish
  rw [closed]
  exact ⟨_, rfl⟩

/-- and otherwise the quotation is what is wrong with it. -/
theorem exists_opened_of_finish (unreadable : scan.finish = .error error) :
    ∃ opened, scan.quotation = some opened ∧
      error = .unclosedQuote opened.quote opened.position := by
  unfold finish at unreadable
  split at unreadable
  · next opened isOpen =>
    cases unreadable
    exact ⟨opened, isOpen, rfl⟩
  · cases unreadable

end Scan

/-- A line that cannot be read has a quote that is never closed, behind a line that can be read. -/
theorem exists_unclosedQuote {line : String} {error : LineError} (unreadable : words line = .error error) :
    ∃ before quote after, line = before ++ String.singleton quote ++ after ∧ isQuote quote = true ∧
      error = .unclosedQuote quote before.utf8ByteSize ∧ ∃ list, words before = .ok list := by
  obtain ⟨⟨quote, position⟩, isOpen, rfl⟩ := Scan.exists_opened_of_finish unreadable
  obtain ⟨before, after, split, isQuote, place, closed⟩ := Scan.exists_opening isOpen
  obtain ⟨list, finished⟩ := Scan.exists_finish_of_closed closed
  refine ⟨.ofList before, quote, .ofList after, ?_, isQuote, ?_, list, ?_⟩
  · rw [← String.toList_inj, split]
    simp
  · dsimp only at place
    rw [place]
  · unfold words
    rw [String.toList_ofList, finished]

/-- Where a line breaks at a blank behind a piece that can be read, its words are those of both pieces,
and a quote that the second leaves open is told at its place on the whole line. Nothing else goes wrong
with a line, and the place that is told is that of the quote, with a piece before it that can be read. -/
theorem words_in_pieces :
    (∀ head rest c list, Text.isBlank c = true → words head = .ok list →
      (∀ more, words rest = .ok more →
        words (head ++ String.singleton c ++ rest) = .ok (list ++ more)) ∧
      ∀ quote position, words rest = .error (.unclosedQuote quote position) →
        words (head ++ String.singleton c ++ rest) =
          .error (.unclosedQuote quote
            ((head ++ String.singleton c).utf8ByteSize + position))) ∧
    (∀ line, words line ≠ .error .noCommand) ∧
    ∀ line quote position, words line = .error (.unclosedQuote quote position) →
      ∃ before after, line = before ++ String.singleton quote ++ after ∧
        before.utf8ByteSize = position ∧ isQuote quote = true ∧
        ∃ list, words before = .ok list := by
  refine ⟨fun head rest c list blank read => ⟨fun more restReads => ?_, ?_⟩, ?_, ?_⟩
  · rw [words_append_blank read blank, restReads]
  · intro quote position unreadable
    rw [words_append_blank read blank, unreadable]
    rfl
  · intro line unreadable
    obtain ⟨_, _, _, _, _, isUnclosed, _⟩ := exists_unclosedQuote unreadable
    cases isUnclosed
  · intro line quote position unreadable
    obtain ⟨before, _, after, split, isQuote, isUnclosed, list, read⟩ :=
      exists_unclosedQuote unreadable
    cases isUnclosed
    exact ⟨before, after, split, rfl, isQuote, list, read⟩

/-- A piece that ends in a lone backslash, a blank of three bytes, and a quote behind an escaped one. -/
theorem words_behind_lone_backslash :
    let line := "say '' \\\u3000é\\' \"to"
    words line = .error (.unclosedQuote '"' 16) ∧
      ∃ before after, line = before ++ "\"" ++ after ∧ before.utf8ByteSize = 16 ∧
        ∃ list, words before = .ok list := by
  obtain ⟨pieces, -, located⟩ := words_in_pieces
  have head : words "say '' \\" = .ok ["say", "", "\\"] := rfl
  have rest : words "é\\' \"to" = .error (.unclosedQuote '"' 5) := rfl
  have whole := (pieces _ _ '\u3000' _ (by decide) head).2 '"' 5 rest
  obtain ⟨before, after, split, place, -, list, read⟩ := located _ _ _ whole
  exact ⟨whole, before, after, split, place, list, read⟩

end MindMap.CommandLine
