import Mathlib.Algebra.Order.Field.Rat
import Mathlib.Data.List.Induction
import Mathlib.Tactic.FieldSimp
import Mathlib.Tactic.Ring
import MindMap.Decimal.Layout
import MindMap.Decimal.Reader

/-!
# Spelled decimals

A number is written as a sign, a whole part, a fraction and an exponent. `Spells` describes such
texts together with the numeral that is read from them, and holds them to the narrower grammar of
stored documents, in which a whole part begins with zero only where that is all of it.

What is written for a number spells a numeral of the same magnitude, as an exact rational. Which
double lies nearest to that magnitude is not considered here.
-/

namespace MindMap.Decimal

/-! ### Magnitudes -/

/-- The rational number that a decimal stands for. -/
def Digits.magnitude (digits : Digits) : Rat := digits.coefficient * 10 ^ digits.exponent

/-- The rational number that a numeral stands for, without its sign. -/
def Numeral.magnitude (number : Numeral) : Rat :=
  valueOf (number.whole ++ number.fraction) * 10 ^ (number.power - number.fraction.length)

/-! ### Digits -/

/-- Decimal digits. -/
def AreDigits (text : List Char) : Prop := ∀ c ∈ text, c.isDigit = true

/-- No text begins with a digit where digits end. -/
def EndsDigits (rest : List Char) : Prop := ∀ c ∈ rest.head?, c.isDigit = false

namespace AreDigits

variable {digits others rest : List Char}

theorem append (areDigits : AreDigits digits) (othersToo : AreDigits others) :
    AreDigits (digits ++ others) := by
  intro c member
  rcases List.mem_append.1 member with member | member
  · exact areDigits c member
  · exact othersToo c member

theorem zeros (count : Nat) : AreDigits (zeros count) := by
  intro c member
  rw [List.eq_of_mem_replicate member]
  rfl

theorem digitChars (n : Nat) : AreDigits (digitChars n) := fun _ member =>
  Nat.isDigit_of_mem_toDigits (by decide) (by decide) member

theorem take (areDigits : AreDigits digits) (count : Nat) : AreDigits (digits.take count) :=
  fun c member => areDigits c (List.mem_of_mem_take member)

theorem drop (areDigits : AreDigits digits) (count : Nat) : AreDigits (digits.drop count) :=
  fun c member => areDigits c (List.mem_of_mem_drop member)

theorem takeWhile_append (areDigits : AreDigits digits) (ends : EndsDigits rest) :
    (digits ++ rest).takeWhile Char.isDigit = digits := by
  rw [List.takeWhile_append_of_pos areDigits]
  cases rest with
  | nil => simp
  | cons c rest => simp [ends c rfl]

theorem dropWhile_append (areDigits : AreDigits digits) (ends : EndsDigits rest) :
    (digits ++ rest).dropWhile Char.isDigit = rest := by
  rw [List.dropWhile_append_of_pos areDigits]
  cases rest with
  | nil => rfl
  | cons c rest => simp [ends c rfl]

end AreDigits

/-- Reading digits is reading them from the left with the value of those before. -/
theorem valueOf_eq (digits : List Char) : valueOf digits = Nat.ofDigitChars 10 digits 0 := by
  rw [Nat.ofDigitChars_eq_foldl]
  rfl

@[simp] theorem valueOf_digitChars (n : Nat) : valueOf (digitChars n) = n := by
  rw [valueOf_eq]
  exact Nat.ofDigitChars_ten_toDigits

/-- Zeros after digits are powers of ten. -/
theorem valueOf_append_zeros (digits : List Char) (count : Nat) :
    valueOf (digits ++ zeros count) = valueOf digits * 10 ^ count := by
  rw [valueOf_eq, valueOf_eq, Nat.ofDigitChars_append, zeros, Nat.ofDigitChars_replicate_zero,
    Nat.mul_comm]

/-- Zeros before digits have no value. -/
theorem valueOf_zeros_append (count : Nat) (digits : List Char) :
    valueOf (zeros count ++ digits) = valueOf digits := by
  rw [valueOf_eq, valueOf_eq, Nat.ofDigitChars_append, zeros, Nat.ofDigitChars_replicate_zero,
    Nat.mul_zero]

theorem digitChars_ne_nil (n : Nat) : digitChars n ≠ [] := Nat.toDigits_ne_nil

/-- Only zero is written with a zero in front. -/
theorem head?_digitChars {n : Nat} (nonzero : n ≠ 0) : (digitChars n).head? ≠ some '0' := by
  induction n using Nat.strongRecOn with
  | ind n inductionHypothesis =>
    by_cases small : n < 10
    · rw [digitChars, Nat.toDigits_of_lt_base small]
      intro zero
      have digit : n.digitChar = '0' := Option.some.inj zero
      have value := Nat.toNat_digitChar_sub_48_of_lt_ten small
      rw [digit] at value
      exact nonzero value.symm
    · have front := inductionHypothesis (n / 10) (by omega) (by omega)
      rw [digitChars, Nat.toDigits_of_base_le (by decide) (by omega)]
      rw [digitChars] at front
      rwa [List.head?_append, Option.or_of_isSome (by simp [Nat.toDigits_ne_nil])]

/-! ### Spellings -/

/-- The whole part of a number: digits, of which the first is zero only where it is the only one. -/
structure IsWhole (text : List Char) : Prop where
  areDigits : AreDigits text
  nonempty : text ≠ []
  noLeadingZero : text.head? = some '0' → text = ['0']

/-- A spelling of the digits after the point, with the point, where there are any. -/
inductive SpellsFraction : List Char → List Char → Prop where
  | absent : SpellsFraction [] []
  | point {digits : List Char} (areDigits : AreDigits digits) (nonempty : digits ≠ []) :
      SpellsFraction digits ('.' :: digits)

/-- The sign in front of an exponent. -/
def powerSign (negative : Bool) : Char := if negative then '-' else '+'

/-- A spelling of the exponent, always with its sign, where it is written. -/
inductive SpellsPower : Int → List Char → Prop where
  | absent : SpellsPower 0 []
  | signed (negative : Bool) {digits : List Char} (areDigits : AreDigits digits)
      (nonempty : digits ≠ []) :
      SpellsPower (if negative then -(valueOf digits : Int) else valueOf digits)
        ('e' :: powerSign negative :: digits)

/-- The sign in front of a number. -/
def minusSign (negative : Bool) : List Char := if negative then ['-'] else []

/-- A spelling of a numeral without its sign. -/
inductive SpellsUnsigned (number : Numeral) : List Char → Prop where
  | intro {point power : List Char} (isWhole : IsWhole number.whole)
      (spellsFraction : SpellsFraction number.fraction point)
      (spellsPower : SpellsPower number.power power) :
      SpellsUnsigned number (number.whole ++ (point ++ power))

/-- A spelling of a numeral. -/
inductive Spells (number : Numeral) : List Char → Prop where
  | intro {unsigned : List Char} (spellsUnsigned : SpellsUnsigned number unsigned) :
      Spells number (minusSign number.negative ++ unsigned)

/-- Digits that end without an exponent end with one. -/
theorem SpellsPower.endsDigits {exponent : Int} {power rest : List Char}
    (spells : SpellsPower exponent power) (ends : EndsDigits rest) :
    EndsDigits (power ++ rest) := by
  cases spells with
  | absent => exact ends
  | signed => simp [EndsDigits]

theorem SpellsPower.readExponent? {exponent : Int} {power : List Char}
    (spells : SpellsPower exponent power) : readExponent? power = some exponent := by
  cases spells with
  | absent => rfl
  | @signed negative digits areDigits nonempty =>
    have all : digits.all Char.isDigit = true := List.all_eq_true.2 areDigits
    cases negative <;> simp [Decimal.readExponent?, powerSign, takeSign, all, nonempty]

/-- Digits that end without a fraction end with one. -/
theorem SpellsFraction.endsDigits {fraction point rest : List Char}
    (spells : SpellsFraction fraction point) (ends : EndsDigits rest) :
    EndsDigits (point ++ rest) := by
  cases spells with
  | absent => exact ends
  | point => simp [EndsDigits]

/-- A whole part begins with no sign. -/
theorem IsWhole.takeSign {whole : List Char} (isWhole : IsWhole whole) (rest : List Char) :
    takeSign (whole ++ rest) = (false, whole ++ rest) := by
  cases whole with
  | nil => exact absurd rfl isWhole.nonempty
  | cons c whole =>
    have digit := isWhole.areDigits c (.head _)
    have notMinus : c ≠ '-' := by rintro rfl; revert digit; decide
    have notPlus : c ≠ '+' := by rintro rfl; revert digit; decide
    rw [List.cons_append, Decimal.takeSign.eq_3]
    · exact fun _ is => notMinus (List.cons.inj is).1
    · exact fun _ is => notPlus (List.cons.inj is).1

/-- A spelling is read as what it spells. -/
theorem Spells.readNumeral? {number : Numeral} {text : List Char} (spells : Spells number text) :
    readNumeral? text = some number := by
  obtain ⟨⟨isWhole, spellsFraction, spellsPower⟩⟩ := spells
  rename_i point power
  have sign : takeSign (minusSign number.negative ++ (number.whole ++ (point ++ power))) =
      (number.negative, number.whole ++ (point ++ power)) := by
    cases number.negative with
    | false => exact isWhole.takeSign _
    | true => rfl
  have endsPower : EndsDigits power := by
    have ends := spellsPower.endsDigits (show EndsDigits [] by simp [EndsDigits])
    rwa [List.append_nil] at ends
  have ends := spellsFraction.endsDigits endsPower
  have read := spellsPower.readExponent?
  simp only [Decimal.readNumeral?, sign, isWhole.areDigits.takeWhile_append ends,
    isWhole.areDigits.dropWhile_append ends]
  obtain ⟨negative, whole, fraction, exponent⟩ := number
  dsimp only at isWhole spellsFraction spellsPower read ⊢
  cases spellsFraction with
  | absent =>
    cases spellsPower with
    | absent => simp [isWhole.nonempty, read]
    | signed => simp [isWhole.nonempty, read]
  | point areDigits nonempty =>
    simp [areDigits.takeWhile_append endsPower, areDigits.dropWhile_append endsPower,
      isWhole.nonempty, read]

/-- A spelling begins with a minus or a digit. -/
theorem Spells.exists_cons {number : Numeral} {text : List Char} (spells : Spells number text) :
    ∃ first rest, text = first :: rest ∧ (first = '-' ∨ first.isDigit = true) := by
  obtain ⟨⟨isWhole, _, _⟩⟩ := spells
  cases number.negative with
  | true => exact ⟨_, _, rfl, .inl rfl⟩
  | false =>
    obtain ⟨first, others, whole⟩ := List.exists_cons_of_ne_nil isWhole.nonempty
    refine ⟨first, _, by rw [whole]; rfl, .inr (isWhole.areDigits first ?_)⟩
    rw [whole]
    exact .head _

/-! ### What is written -/

/-- A magnitude written without sign, for a numeral of either sign. -/
def Writes (text : List Char) (magnitude : Rat) : Prop :=
  ∀ negative, ∃ number : Numeral,
    number.negative = negative ∧ SpellsUnsigned number text ∧ number.magnitude = magnitude

/-- A text is taken apart into the parts of a spelling. -/
theorem Writes.intro {text whole fraction point power : List Char} {exponent : Int}
    {magnitude : Rat}
    (isWhole : IsWhole whole) (spellsFraction : SpellsFraction fraction point)
    (spellsPower : SpellsPower exponent power) (parts : text = whole ++ (point ++ power))
    (value : valueOf (whole ++ fraction) * (10 : Rat) ^ (exponent - fraction.length) = magnitude) :
    Writes text magnitude := fun negative =>
  ⟨⟨negative, whole, fraction, exponent⟩, rfl,
    parts ▸ .intro isWhole spellsFraction spellsPower, value⟩

/-- Digits with no zero in front of them. -/
structure Leads (digits : List Char) : Prop where
  areDigits : AreDigits digits
  nonempty : digits ≠ []
  notZero : digits.head? ≠ some '0'

theorem Leads.digitChars {n : Nat} (nonzero : n ≠ 0) : Leads (digitChars n) :=
  ⟨.digitChars n, digitChars_ne_nil n, head?_digitChars nonzero⟩

theorem Leads.isWhole {digits : List Char} (leads : Leads digits) : IsWhole digits :=
  ⟨leads.areDigits, leads.nonempty, fun zero => absurd zero leads.notZero⟩

/-- Any digits may follow one that is not zero. -/
theorem Leads.append {digits more : List Char} (leads : Leads digits)
    (areDigits : AreDigits more) : Leads (digits ++ more) where
  areDigits := leads.areDigits.append areDigits
  nonempty := by simp [leads.nonempty]
  notZero := by
    rw [List.head?_append, Option.or_of_isSome (by simp [leads.nonempty])]
    exact leads.notZero

/-- The first of several digits may stand alone. -/
theorem Leads.take {digits : List Char} (leads : Leads digits) {count : Nat} (some : 0 < count) :
    Leads (digits.take count) where
  areDigits := leads.areDigits.take count
  nonempty := by simp [leads.nonempty, Nat.ne_of_gt some]
  notZero := by
    rw [List.head?_take, if_neg (Nat.ne_of_gt some)]
    exact leads.notZero

theorem valueOf_concat (digits : List Char) (digit : Char) :
    valueOf (digits ++ [digit]) = 10 * valueOf digits + digitValue digit := by
  simp [valueOf]

theorem digitValue_of_isDigit {digit : Char} (isDigit : digit.isDigit = true) :
    digitValue digit + 48 = digit.toNat ∧ digitValue digit < 10 := by
  simp only [Char.isDigit, Bool.and_eq_true, decide_eq_true_eq, ge_iff_le] at isDigit
  have lower : 48 ≤ digit.toNat := isDigit.1
  have upper : digit.toNat ≤ 57 := isDigit.2
  have value : digitValue digit = digit.toNat - 48 := rfl
  omega

theorem digitChars_digitValue {digit : Char} (isDigit : digit.isDigit = true) :
    digitChars (digitValue digit) = [digit] := by
  obtain ⟨value, small⟩ := digitValue_of_isDigit isDigit
  rw [digitChars, Nat.toDigits_of_lt_base small]
  congr 1
  apply Char.toNat_inj.mp
  rw [Nat.toNat_digitChar_of_lt_ten small]
  omega

/-- Digits with no zero in front of them are those written for their value. -/
theorem digitChars_valueOf {digits : List Char} (leads : Leads digits) :
    digitChars (valueOf digits) = digits := by
  induction digits using List.reverseRecOn with
  | nil => exact absurd rfl leads.nonempty
  | append_singleton digits digit inductionHypothesis =>
    have isDigit : digit.isDigit = true := leads.areDigits digit (by simp)
    have one := digitChars_digitValue isDigit
    rw [valueOf_concat]
    cases digits with
    | nil => simpa [valueOf] using one
    | cons first rest =>
      have before : digitChars (valueOf (first :: rest)) = first :: rest := by
        refine inductionHypothesis ⟨?_, List.cons_ne_nil _ _, by simpa using leads.notZero⟩
        exact fun c member => leads.areDigits c (List.mem_append_left _ member)
      have positive : 0 < valueOf (first :: rest) := by
        refine Nat.pos_of_ne_zero fun zero => leads.notZero ?_
        rw [zero] at before
        exact congrArg List.head? before.symm
      calc digitChars (10 * valueOf (first :: rest) + digitValue digit)
          = digitChars (valueOf (first :: rest)) ++ digitChars (digitValue digit) :=
            (Nat.toDigits_append_toDigits (by decide) positive
              (digitValue_of_isDigit isDigit).2).symm
        _ = first :: rest ++ [digit] := by rw [before, one]

theorem isWhole_zero : IsWhole ['0'] := ⟨by simp [AreDigits], by simp, fun _ => rfl⟩

/-- A natural number is spelled by its digits. -/
theorem spells_digitChars (n : Nat) : Spells ⟨false, digitChars n, [], 0⟩ (digitChars n) := by
  have isWhole : IsWhole (digitChars n) := by
    by_cases zero : n = 0
    · subst zero
      exact isWhole_zero
    · exact (Leads.digitChars zero).isWhole
  have unsigned : SpellsUnsigned ⟨false, digitChars n, [], 0⟩ (digitChars n ++ ([] ++ [])) :=
    .intro isWhole .absent .absent
  simpa [minusSign] using Spells.intro unsigned

/-- Zero, written positionally. -/
theorem writes_zero (pointZero : Bool) : Writes (writePositional pointZero ['0'] 0) 0 := by
  cases pointZero with
  | false =>
    exact .intro isWhole_zero .absent .absent rfl (by simp [valueOf, digitValue])
  | true =>
    exact .intro isWhole_zero (.point (.zeros 1) (by simp [zeros])) .absent rfl
      (by simp [zeros, valueOf, digitValue])

/-- A number with nothing behind its place of ones. -/
theorem writes_whole {digits : List Char} (leads : Leads digits) (pointZero : Bool) (count : Nat) :
    Writes (digits ++ zeros count ++ if pointZero then ['.', '0'] else [])
      (valueOf digits * 10 ^ (count : Int)) := by
  have isWhole : IsWhole (digits ++ zeros count) := (leads.append (.zeros count)).isWhole
  cases pointZero with
  | false =>
    refine .intro isWhole .absent .absent rfl ?_
    simp [valueOf_append_zeros]
  | true =>
    refine .intro isWhole (.point (.zeros 1) (by simp [zeros])) .absent rfl ?_
    rw [valueOf_append_zeros, valueOf_append_zeros]
    simp [zeros]

/-- A number with its point among its digits. -/
theorem writes_point {digits : List Char} (leads : Leads digits) {places : Nat} (some : 0 < places)
    (fewer : places < digits.length) :
    Writes (digits.take (digits.length - places) ++ '.' :: digits.drop (digits.length - places))
      (valueOf digits * 10 ^ (-places : Int)) := by
  have back : digits.drop (digits.length - places) ≠ [] := by
    rw [Ne, List.drop_eq_nil_iff]
    omega
  have front : 0 < digits.length - places := Nat.sub_pos_of_lt fewer
  refine .intro (leads.take front).isWhole (.point (leads.areDigits.drop _) back) .absent
    (by simp) ?_
  rw [List.take_append_drop, List.length_drop]
  congr 2
  omega

/-- A number with nothing but zero before its point. -/
theorem writes_small {digits : List Char} (leads : Leads digits) {places : Nat}
    (enough : digits.length ≤ places) :
    Writes ('0' :: '.' :: zeros (places - digits.length) ++ digits)
      (valueOf digits * 10 ^ (-places : Int)) := by
  have value := valueOf_zeros_append (places - digits.length + 1) digits
  have areDigits := (AreDigits.zeros (places - digits.length)).append leads.areDigits
  refine .intro isWhole_zero (.point areDigits (by simp [leads.nonempty])) .absent (by simp) ?_
  rw [show ['0'] ++ (zeros (places - digits.length) ++ digits)
    = zeros (places - digits.length + 1) ++ digits from rfl, value]
  congr 2
  simp [zeros]
  omega

/-- A number whose point is moved by powers of ten, written out. -/
theorem writes_positional {digits : List Char} (leads : Leads digits) (pointZero : Bool)
    (exponent : Int) :
    Writes (writePositional pointZero digits exponent) (valueOf digits * 10 ^ exponent) := by
  unfold writePositional
  split
  · next whole =>
    have writes := writes_whole leads pointZero exponent.toNat
    rwa [Int.toNat_of_nonneg whole] at writes
  · next below =>
    have places : exponent = -((-exponent).toNat : Int) := by omega
    dsimp only
    split
    · next fewer =>
      have writes := writes_point leads (by omega) fewer
      rwa [← places] at writes
    · next enough =>
      have writes := writes_small leads (Nat.le_of_not_lt enough)
      rwa [← places] at writes

/-- A number with its point after the first digit and an exponent. -/
theorem writes_scientific {digits : List Char} (areDigits : AreDigits digits)
    (nonempty : digits ≠ []) (leading : Int) :
    Writes (writeScientific digits leading)
      (valueOf digits * 10 ^ (leading + 1 - digits.length)) := by
  have power : SpellsPower leading
      ('e' :: powerSign (leading < 0) :: digitChars leading.natAbs) := by
    have spells := SpellsPower.signed (leading < 0) (.digitChars leading.natAbs)
      (digitChars_ne_nil leading.natAbs)
    rw [valueOf_digitChars] at spells
    convert spells using 1
    simp only [decide_eq_true_eq]
    split <;> omega
  match digits, nonempty with
  | [first], _ =>
    have isWhole : IsWhole [first] :=
      ⟨areDigits, by simp, fun zero => congrArg (· :: []) (Option.some.inj zero)⟩
    refine .intro isWhole .absent power ?_ ?_
    · simp [writeScientific, powerSign]
    · simp
  | first :: second :: rest, _ =>
    have isWhole : IsWhole [first] :=
      ⟨areDigits.take 1, by simp, fun zero => congrArg (· :: []) (Option.some.inj zero)⟩
    refine .intro isWhole (.point (areDigits.drop 1) (by simp)) power ?_ ?_
    · simp [writeScientific, powerSign]
    · simp only [List.drop_one, List.tail_cons, List.singleton_append, List.length_cons]
      congr 2
      push_cast
      ring

/-- What is written for a positive decimal has its magnitude. -/
theorem writes_digits (layout : Layout) {digits : Digits} (nonzero : digits.coefficient ≠ 0) :
    Writes (writeDigits layout digits) digits.magnitude := by
  have leads := Leads.digitChars nonzero
  have value :
      digits.magnitude = valueOf (digitChars digits.coefficient) * 10 ^ digits.exponent := by
    rw [valueOf_digitChars, Digits.magnitude]
  rw [value]
  unfold writeDigits
  dsimp only
  split
  · exact writes_positional leads layout.pointZero digits.exponent
  · have writes := writes_scientific leads.areDigits leads.nonempty
      (digits.exponent + (digitChars digits.coefficient).length - 1)
    convert writes using 3
    ring

end MindMap.Decimal
