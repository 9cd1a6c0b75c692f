import MindMap.Json.Escape
import MindMap.Json.Reader
import MindMap.Json.Writer
import MindMap.Proofs.Decimal.Spelling

/-!
# Spellings read back

The reader takes texts and numbers apart only as far as it must to find their ends, and what they
stand for is asked later. Both halves are established here for what the writer puts down: the
spelling of a text is found again up to its closing quote, whatever follows, and stands for that
text; the spelling of a number is found again before everything that cannot continue it.

Which spellings of numbers are written for which numbers is not considered here.
-/

namespace MindMap.Json

/-! ### Texts -/

/-- The ways in which a text can spell one character: by a letter after a backslash, by four
hexadecimal digits, or by itself. -/
inductive SpellsChar (c : Char) : List Char → Prop where
  | letter {letter : Char} (notUnit : letter ≠ 'u') (stands : simpleEscape? letter = some c) :
      SpellsChar c ['\\', letter]
  | unit (control : isControl c = true) :
      SpellsChar c ['\\', 'u', '0', '0', hexDigit (c.toNat / 16), hexDigit (c.toNat % 16)]
  | itself (notQuote : c ≠ '"') (notBackslash : c ≠ '\\') (plain : isControl c = false) :
      SpellsChar c [c]

/-- What is written for a character spells it. -/
theorem spells_escapeChar (c : Char) : SpellsChar c (escapeChar c) := by
  unfold escapeChar
  split
  · next is => subst is; exact .letter (by decide) rfl
  split
  · next is => subst is; exact .letter (by decide) rfl
  split
  · next is => subst is; exact .letter (by decide) rfl
  split
  · next is => subst is; exact .letter (by decide) rfl
  split
  · next is => subst is; exact .letter (by decide) rfl
  split
  · next is => subst is; exact .letter (by decide) rfl
  split
  · next is => subst is; exact .letter (by decide) rfl
  split
  · next control => exact .unit control
  · next notQuote notBackslash _ _ _ _ _ plain =>
    exact .itself notQuote notBackslash (by simpa using plain)

theorem hexValue?_hexDigit : ∀ n < 16, hexValue? (hexDigit n) = some n := by decide

/-- Two hexadecimal digits are enough for a character that cannot stand for itself. -/
theorem hexUnit?_of_isControl {c : Char} (control : isControl c = true) :
    hexUnit? '0' '0' (hexDigit (c.toNat / 16)) (hexDigit (c.toNat % 16)) = some c.toNat := by
  have small : c.toNat < 32 := by simpa [isControl] using control
  have zero : hexValue? '0' = some 0 := by decide
  simp only [hexUnit?, zero, hexValue?_hexDigit _ (show c.toNat / 16 < 16 by omega),
    hexValue?_hexDigit _ (show c.toNat % 16 < 16 by omega), Option.bind_eq_bind, Option.bind_some,
    Option.pure_def, Option.some.injEq]
  omega

/-- A spelled character stands for itself, whatever the rest of the spelling. -/
theorem SpellsChar.unescape? {c : Char} {spelling : List Char} (spells : SpellsChar c spelling)
    (rest : List Char) :
    unescape? (spelling ++ rest) = (Json.unescape? rest).map (c :: ·) := by
  cases spells with
  | letter notUnit stands =>
    simp only [List.cons_append, List.nil_append]
    rw [unescape?.eq_3 _ _ (by intro _ _ _ _ _ is; exact absurd is notUnit), stands]
  | unit control =>
    have small : c.toNat < 32 := by simpa [isControl] using control
    have notHigh : isHighSurrogate c.toNat = false := by
      simp only [isHighSurrogate, Bool.and_eq_false_iff, decide_eq_false_iff_not]; omega
    have notLow : isLowSurrogate c.toNat = false := by
      simp only [isLowSurrogate, Bool.and_eq_false_iff, decide_eq_false_iff_not]; omega
    simp only [List.cons_append, List.nil_append]
    rw [unescape?.eq_2]
    simp [hexUnit?_of_isControl control, notHigh, notLow]
  | itself _ notBackslash _ =>
    simp only [List.cons_append, List.nil_append]
    rw [unescape?.eq_4 _ _ (by intro _ _ _ _ _ is; exact absurd is notBackslash)
      (by intro _ _ is; exact absurd is notBackslash), if_neg notBackslash]

/-- A spelled character is passed over as a whole. -/
theorem SpellsChar.readSpelling? {c : Char} {spelling : List Char} (spells : SpellsChar c spelling)
    (before rest : List Char) :
    readSpelling? before (spelling ++ rest) =
      Json.readSpelling? (spelling.reverse ++ before) rest := by
  cases spells with
  | letter notUnit stands =>
    simp only [List.cons_append, List.nil_append]
    rw [readSpelling?.eq_4 _ _ _ (by intro _ _ _ _ _ is; exact absurd is notUnit), stands]
    rfl
  | unit control =>
    simp only [List.cons_append, List.nil_append]
    rw [readSpelling?.eq_3, hexUnit?_of_isControl control]
    rfl
  | itself notQuote notBackslash plain =>
    simp only [List.cons_append, List.nil_append]
    rw [readSpelling?.eq_5 _ _ _ notQuote (by intro _ _ _ _ _ is; exact absurd is notBackslash)
      (by intro _ _ is; exact absurd is notBackslash), plain]
    rfl

/-- The spelling of a text stands for that text. -/
theorem unescape?_escape (text : List Char) : unescape? (escape text) = some text := by
  induction text with
  | nil => rfl
  | cons c text inductionHypothesis =>
    rw [escape, List.flatMap_cons, (spells_escapeChar c).unescape?]
    exact congrArg (Option.map (c :: ·)) inductionHypothesis

/-- The spelling of a text is found again up to its closing quote. -/
theorem readSpelling?_escape (text before rest : List Char) :
    readSpelling? before (escape text ++ '"' :: rest) =
      some (.ofList (before.reverse ++ escape text), rest) := by
  induction text generalizing before with
  | nil => simp [escape, readSpelling?]
  | cons c text inductionHypothesis =>
    rw [escape, List.flatMap_cons, List.append_assoc, (spells_escapeChar c).readSpelling?]
    refine (inductionHypothesis _).trans ?_
    simp [escape]

/-! ### Numbers -/

open Decimal

/-- Nothing that a text begins with can continue a number. -/
def EndsNumber (rest : List Char) : Prop :=
  ∀ c ∈ rest.head?, c.isDigit = false ∧ c ≠ '.' ∧ c ≠ 'e' ∧ c ≠ 'E'

theorem EndsNumber.endsDigits {rest : List Char} (ends : EndsNumber rest) : EndsDigits rest :=
  fun c first => (ends c first).1

theorem takeDigits_append {digits rest : List Char} (areDigits : AreDigits digits)
    (ends : EndsDigits rest) : takeDigits (digits ++ rest) = (digits, rest) := by
  rw [takeDigits, areDigits.takeWhile_append ends, areDigits.dropWhile_append ends]

theorem readWhole?_append {whole rest : List Char} (isWhole : IsWhole whole)
    (ends : EndsDigits rest) : readWhole? (whole ++ rest) = some (whole, rest) := by
  obtain ⟨areDigits, nonempty, noLeadingZero⟩ := isWhole
  cases whole with
  | nil => exact absurd rfl nonempty
  | cons c whole =>
    by_cases zero : c = '0'
    · obtain rfl : whole = [] := by simpa [zero] using noLeadingZero
      subst zero
      cases rest with
      | nil => rfl
      | cons next rest => simp [readWhole?, ends next rfl]
    · have taken := takeDigits_append areDigits ends
      rw [List.cons_append] at taken ⊢
      rw [readWhole?.eq_3 _ _ fun is => zero is]
      simp [areDigits c (.head _), taken]

theorem readPower?_append {power rest : List Char} {exponent : Int}
    (spells : SpellsPower exponent power) (ends : EndsNumber rest) :
    readPower? (power ++ rest) = some (power, rest) := by
  cases spells with
  | absent =>
    cases rest with
    | nil => rfl
    | cons c rest =>
      obtain ⟨_, _, notLower, notUpper⟩ := ends c rfl
      simp [readPower?, notLower, notUpper]
  | @signed negative digits areDigits nonempty =>
    have sign : splitSign (powerSign negative :: (digits ++ rest)) =
        ([powerSign negative], digits ++ rest) := by cases negative <;> rfl
    simp [readPower?, sign, takeDigits_append areDigits ends.endsDigits, nonempty]

theorem readFraction?_append {fraction point power rest : List Char} {exponent : Int}
    (spells : SpellsFraction fraction point) (spellsPower : SpellsPower exponent power)
    (ends : EndsNumber rest) :
    readFraction? (point ++ (power ++ rest)) = some (point, power ++ rest) := by
  cases spells with
  | absent =>
    cases spellsPower with
    | absent =>
      cases rest with
      | nil => rfl
      | cons c rest => simp [readFraction?, (ends c rfl).2.1]
    | signed => rfl
  | point areDigits nonempty =>
    have taken := takeDigits_append areDigits (spellsPower.endsDigits ends.endsDigits)
    simp [readFraction?, taken, nonempty]

/-- The spelling of a number is found again before everything that cannot continue it. -/
theorem readNumber?_append {number : Numeral} {text rest : List Char} (spells : Spells number text)
    (ends : EndsNumber rest) : readNumber? (text ++ rest) = some (.ofList text, rest) := by
  obtain ⟨⟨isWhole, spellsFraction, spellsPower⟩⟩ := spells
  rename_i point power
  have readWhole := readWhole?_append isWhole
    (spellsFraction.endsDigits (spellsPower.endsDigits ends.endsDigits))
  have readFraction := readFraction?_append spellsFraction spellsPower ends
  have readPower := readPower?_append spellsPower ends
  simp only [List.append_assoc]
  cases number.negative with
  | true =>
    simp [minusSign, readNumber?, readWhole, readFraction, readPower]
  | false =>
    have noMinus : ∀ unsigned, number.whole ++ (point ++ (power ++ rest)) ≠ '-' :: unsigned := by
      intro unsigned is
      have := isWhole.takeSign (point ++ (power ++ rest))
      rw [is] at this
      cases this
    simp only [minusSign, Bool.false_eq_true, if_false, List.nil_append]
    rw [readNumber?.eq_2 _ noMinus]
    simp [readWhole, readFraction, readPower]

end MindMap.Json
