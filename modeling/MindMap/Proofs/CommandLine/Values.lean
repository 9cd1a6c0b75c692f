import MindMap.CommandLine.Value
import MindMap.CommandLine.Words
import MindMap.Proofs.Decimal.Spelling

/-!
# Words read as values

What a word reads as, from what it looks like. An integer in decimal reads as itself where it fits,
and as its own text where it does not, so that no digit is lost. A word that is no literal and has
no pair of quotes around it reads as the text that it is.

Numbers with a point are left out here: which double such a word reads as is decided by the reader
of decimals.
-/

namespace MindMap.CommandLine

/-! ### Quotes around a word -/

/-- A quote stands at both ends of the word, the same at each. -/
def IsWrapped (word : String) : Prop :=
  ∃ quote inner, isQuote quote = true ∧ word.toList = quote :: (inner ++ [quote])

theorem eq_of_stripQuote? {quote : Char} {word inner : List Char}
    (stripped : stripQuote? quote word = some inner) : word = quote :: (inner ++ [quote]) := by
  unfold stripQuote? at stripped
  split at stripped
  · next first rest =>
    split at stripped
    · next both =>
      obtain ⟨rfl, last⟩ : first = quote ∧ rest.getLast? = some quote := by simpa using both
      cases stripped
      rw [List.dropLast_append_getLast? first last]
    · cases stripped
  · cases stripped

theorem stripQuotes_of_not_isWrapped {word : String} (bare : ¬IsWrapped word) :
    stripQuotes word = word := by
  unfold stripQuotes
  split
  · next inner stripped =>
    exact absurd ⟨'"', inner, rfl, eq_of_stripQuote? stripped⟩ bare
  · split
    · next inner stripped =>
      exact absurd ⟨'\'', inner, rfl, eq_of_stripQuote? stripped⟩ bare
    · rfl

/-! ### Integers -/

theorem isBlank_of_isDigit {c : Char} (digit : c.isDigit = true) : Text.isBlank c = false := by
  simp only [Char.isDigit, Bool.and_eq_true, decide_eq_true_eq, ge_iff_le] at digit
  have lower : 48 ≤ c.toNat := digit.1
  have upper : c.toNat ≤ 57 := digit.2
  simp only [Text.isBlank, Text.CodePoints.contains, Text.whiteSpace]
  rw [Text.CodePoints.insideAfter_of_le (by omega), Text.CodePoints.insideAfter_of_le (by omega),
    Text.CodePoints.insideAfter_of_le (by omega), Text.CodePoints.insideAfter_of_le (by omega),
    Text.CodePoints.insideAfter_of_lt (by omega)]
  rfl

theorem isDigit_of_mem_toString {n : Nat} {c : Char} (member : c ∈ (toString n).toList) :
    c.isDigit = true := by
  refine Decimal.AreDigits.digitChars n c ?_
  rw [Decimal.digitChars, ← Nat.toList_repr]
  exact member

/-- The integers of 64 bits. -/
def FitsInteger (n : Int) : Prop := leastInteger ≤ n ∧ n ≤ greatestInteger

instance (n : Int) : Decidable (FitsInteger n) :=
  inferInstanceAs (Decidable (leastInteger ≤ n ∧ n ≤ greatestInteger))

theorem takeMinus_digitChars (n : Nat) :
    takeMinus (Decimal.digitChars n) = (false, Decimal.digitChars n) := by
  unfold takeMinus
  split
  · next rest starts =>
    have digit := Decimal.AreDigits.digitChars n '-' (by simp [starts])
    exact absurd digit (by decide)
  · rfl

/-- An integer is written in decimal, after a minus if it is negative. -/
theorem takeMinus_toString (n : Int) :
    takeMinus (toString n).toList = (decide (n < 0), Decimal.digitChars n.natAbs) := by
  cases n with
  | ofNat n =>
    have written : (toString (Int.ofNat n)).toList = Decimal.digitChars n := Nat.toList_repr
    rw [written, takeMinus_digitChars]
    simp
  | negSucc n =>
    have written : (toString (Int.negSucc n)).toList = '-' :: Decimal.digitChars (n + 1) := by
      simp [toString, Int.repr, Decimal.digitChars, Nat.toList_repr]
    rw [written]
    simp [takeMinus, Int.negSucc_lt_zero]

theorem isIntegerShape_toString (n : Int) : isIntegerShape (toString n).toList = true := by
  have digits : (Decimal.digitChars n.natAbs).all Text.isDecimalDigit = true :=
    List.all_eq_true.2 fun c member =>
      Text.isDecimalDigit_of_isDigit (Decimal.AreDigits.digitChars n.natAbs c member)
  rw [isIntegerShape, takeMinus_toString]
  simp [digits, Decimal.digitChars_ne_nil]

theorem readInteger?_toString (n : Int) :
    readInteger? (toString n).toList = if FitsInteger n then some n else none := by
  have digits : (Decimal.digitChars n.natAbs).all Char.isDigit = true :=
    List.all_eq_true.2 (Decimal.AreDigits.digitChars n.natAbs)
  have signed : (if n < 0 then -(n.natAbs : Int) else n.natAbs) = n := by
    split <;> omega
  have notEmpty : (Decimal.digitChars n.natAbs).isEmpty = false := by
    simp [Decimal.digitChars_ne_nil]
  rw [readInteger?, takeMinus_toString]
  simp only [notEmpty, digits, Bool.not_false, Bool.and_self, if_true, Decimal.valueOf_digitChars,
    decide_eq_true_eq, Bool.and_eq_true, signed]
  by_cases fits : FitsInteger n
  · rw [if_pos fits]
    exact if_pos fits
  · rw [if_neg fits]
    exact if_neg fits

namespace Value

/-- An integer reads as itself if it has 64 bits, and as its digits if it has more. -/
theorem ofWord_toString (n : Int) :
    ofWord (toString n) = if FitsInteger n then .integer n else .text (toString n) := by
  have shape := isIntegerShape_toString n
  have differs : ∀ word : String, isIntegerShape word.toList = false → toString n ≠ word := by
    intro word noInteger same
    rw [same, noInteger] at shape
    cases shape
  rw [ofWord, if_neg (differs "true" (by decide)), if_neg (differs "false" (by decide)),
    if_pos shape, readInteger?_toString]
  by_cases fits : FitsInteger n
  · rw [if_pos fits, if_pos fits]
  · rw [if_neg fits, if_neg fits]

end Value

/-! ### Texts -/

/-- A word that is spelled like a truth value, an integer or a number. -/
def IsLiteral (word : String) : Prop :=
  word = "true" ∨ word = "false" ∨ isIntegerShape word.toList = true ∨
    isNumberShape word.toList = true

/-- A word that is no literal and has no quotes around it reads as it is. -/
theorem Value.ofWord_of_not_isLiteral {word : String} (notLiteral : ¬IsLiteral word)
    (bare : ¬IsWrapped word) : ofWord word = .text word := by
  simp only [IsLiteral, not_or] at notLiteral
  obtain ⟨notTrue, notFalse, notInteger, notNumber⟩ := notLiteral
  rw [ofWord, if_neg notTrue, if_neg notFalse, if_neg notInteger, if_neg notNumber,
    stripQuotes_of_not_isWrapped bare]

end MindMap.CommandLine
