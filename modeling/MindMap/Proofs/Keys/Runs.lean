import Mathlib.Data.List.Infix
import Mathlib.Data.List.TakeWhile
import MindMap.Keys.Sequence
import MindMap.Proofs.Decimal.Spelling
import MindMap.Proofs.Keys.Growth

/-!
# Keys typed one after another

The keys that have led to nothing yet are a count, which is all digits at their beginning unless
the first is a zero, and the keys of a binding behind it. A key sequence holds exactly these two, so
what the next key leads to is told by the keys typed since the last answer, whatever came before:
`obeys_law`.

A count is held as a number and written out again from it. This gives back the digits that were
typed as long as their number does not go beyond the greatest count.
-/

namespace MindMap.KeySequence

/-! ### Typing keys -/

/-- Type keys one after another, whatever each leads to. -/
def after (sequence : KeySequence) (keys : List Char) : KeySequence :=
  keys.foldl (fun sequence key => (sequence.push key).2) sequence

/-- What each of some keys leads to. -/
def outcomes (sequence : KeySequence) : List Char → List KeyOutcome
  | [] => []
  | key :: rest => (sequence.push key).1 :: (sequence.push key).2.outcomes rest

/-- The keys that wait for more after a key: those before with this one, and none once they have led
to something. -/
def kept (run : List Char) (key : Char) (outcome : KeyOutcome) : List Char :=
  if outcome = .pending then run ++ [key] else []

/-- The keys typed since the last outcome other than waiting, where `run` are those typed before. -/
def unanswered (sequence : KeySequence) (run : List Char) : List Char → List Char
  | [] => run
  | key :: rest => (sequence.push key).2.unanswered (kept run key (sequence.push key).1) rest

theorem outcomes_append (sequence : KeySequence) (keys more : List Char) :
    sequence.outcomes (keys ++ more) =
      sequence.outcomes keys ++ (sequence.after keys).outcomes more := by
  induction keys generalizing sequence with
  | nil => rfl
  | cons key rest inductionHypothesis =>
    rw [List.cons_append, outcomes, outcomes, inductionHypothesis]
    rfl

theorem keymap_pushBound (sequence : KeySequence) (key : Char) :
    (sequence.pushBound key).2.keymap = sequence.keymap := by
  unfold pushBound
  dsimp only
  repeat' split
  all_goals rfl

theorem keymap_push (sequence : KeySequence) (key : Char) :
    (sequence.push key).2.keymap = sequence.keymap := by
  unfold push
  repeat' split
  · rfl
  · rfl
  · exact keymap_pushBound sequence key

/-- Typing binds no keys anew. -/
theorem keymap_after (sequence : KeySequence) (keys : List Char) :
    (sequence.after keys).keymap = sequence.keymap := by
  induction keys generalizing sequence with
  | nil => rfl
  | cons key rest inductionHypothesis =>
    exact (inductionHypothesis _).trans (keymap_push sequence key)

/-- A key that completes a command line completes the keys of a binding, and the line is that of the
binding after the count. -/
theorem exists_binding_of_push {sequence : KeySequence} {key : Char} {line : String}
    (made : (sequence.push key).1 = .command line) :
    ∃ binding, sequence.keymap.lookup? (sequence.keys.push key) = some binding ∧
      line = lineOf binding sequence.count := by
  unfold push at made
  split at made
  · cases made
  · split at made
    · cases made
    · unfold pushBound at made
      dsimp only at made
      split at made
      · next binding bound =>
        cases made
        exact ⟨binding, bound, rfl⟩
      · split at made <;> cases made

/-! ### Counts and the keys behind them -/

/-- Digits that make a count, which does not begin with a zero. There may be none. -/
structure IsCount (digits : List Char) : Prop where
  areDigits : Decimal.AreDigits digits
  notZero : digits.head? ≠ some '0'

/-- The count that keys begin with: all digits at their beginning, unless the first is a zero. -/
def countOf (keys : List Char) : List Char :=
  if keys.head? = some '0' then [] else keys.takeWhile Char.isDigit

/-- The keys behind the count. -/
def keysOf (keys : List Char) : List Char :=
  if keys.head? = some '0' then keys else keys.dropWhile Char.isDigit

variable {keymap : Keymap} {run digits rest : List Char} {key : Char}

theorem isCount_nil : IsCount [] := ⟨by simp [Decimal.AreDigits], by simp⟩

theorem IsCount.of_append (isCount : IsCount (digits ++ rest)) : IsCount digits where
  areDigits := fun c member => isCount.areDigits c (List.mem_append_left _ member)
  notZero := fun zero => isCount.notZero (by simp [List.head?_append, zero])

theorem IsCount.leads (isCount : IsCount digits) (notEmpty : digits ≠ []) : Decimal.Leads digits :=
  ⟨isCount.areDigits, notEmpty, isCount.notZero⟩

/-- Any digit goes on with a count, and any but zero begins one. -/
theorem isCount_concat_iff :
    IsCount (digits ++ [key]) ↔
      IsCount digits ∧ key.isDigit = true ∧ (key ≠ '0' ∨ digits ≠ []) := by
  constructor
  · refine fun isCount => ⟨isCount.of_append, isCount.areDigits key (by simp), ?_⟩
    by_contra neither
    obtain ⟨rfl, rfl⟩ : key = '0' ∧ digits = [] := by simpa using neither
    exact isCount.notZero rfl
  · rintro ⟨isCount, isDigit, goesOn⟩
    refine ⟨isCount.areDigits.append (by simpa [Decimal.AreDigits] using isDigit), ?_⟩
    cases digits with
    | nil => simpa using goesOn
    | cons first rest => exact isCount.notZero

theorem countOf_append_keysOf (keys : List Char) : countOf keys ++ keysOf keys = keys := by
  unfold countOf keysOf
  split
  · rfl
  · exact List.takeWhile_append_dropWhile

theorem isCount_countOf (keys : List Char) : IsCount (countOf keys) := by
  unfold countOf
  split
  · exact isCount_nil
  · next notZero =>
    refine ⟨fun c member => List.mem_takeWhile_imp member, fun zero => notZero ?_⟩
    rw [List.head?_takeWhile, Option.filter_eq_some_iff] at zero
    exact zero.1

/-- A count goes on for as long as it can. -/
theorem not_isCount_of_head?_keysOf (behind : key ∈ (keysOf run).head?) :
    ¬IsCount (countOf run ++ [key]) := by
  unfold countOf keysOf at *
  split at behind
  · next zero =>
    rw [if_pos zero]
    obtain rfl : key = '0' := Option.some.inj (behind.symm.trans zero)
    exact fun isCount => isCount.notZero rfl
  · next notZero =>
    rw [if_neg notZero]
    intro isCount
    have noDigit := List.head?_dropWhile_not Char.isDigit run
    rw [behind] at noDigit
    simp [isCount.areDigits key (by simp)] at noDigit

/-- The count is what keys begin with, up to where it cannot go on. -/
theorem split_append (isCount : IsCount digits)
    (ends : ∀ key ∈ rest.head?, ¬IsCount (digits ++ [key])) :
    countOf (digits ++ rest) = digits ∧ keysOf (digits ++ rest) = rest := by
  unfold countOf keysOf
  by_cases zero : (digits ++ rest).head? = some '0'
  · have noDigits : digits = [] := by
      cases digits with
      | nil => rfl
      | cons first more => exact absurd zero isCount.notZero
    subst noDigits
    exact ⟨if_pos zero, if_pos zero⟩
  · have endsDigits : Decimal.EndsDigits rest := by
      intro c isHead
      by_contra isDigit
      have sameHead : (digits ++ [c]).head? = (digits ++ rest).head? := by
        rw [List.head?_append, List.head?_append, Option.mem_def.mp isHead, List.head?_cons]
      exact ends c isHead ⟨isCount.areDigits.append (by simpa [Decimal.AreDigits] using isDigit),
        sameHead ▸ zero⟩
    rw [if_neg zero, if_neg zero]
    exact ⟨isCount.areDigits.takeWhile_append endsDigits,
      isCount.areDigits.dropWhile_append endsDigits⟩

theorem split_of_isCount (isCount : IsCount run) : countOf run = run ∧ keysOf run = [] := by
  have split : countOf (run ++ []) = run ∧ keysOf (run ++ []) = [] := split_append isCount (by simp)
  rwa [List.append_nil] at split

theorem keysOf_eq_nil_iff : keysOf run = [] ↔ IsCount run := by
  refine ⟨fun noKeys => ?_, fun isCount => (split_of_isCount isCount).2⟩
  have split := countOf_append_keysOf run
  rw [noKeys, List.append_nil] at split
  exact split ▸ isCount_countOf run

/-- A key that does not go on with the count comes behind it. -/
theorem split_concat (noCount : ¬IsCount (run ++ [key])) :
    countOf (run ++ [key]) = countOf run ∧ keysOf (run ++ [key]) = keysOf run ++ [key] := by
  have split := countOf_append_keysOf run
  rw [show run ++ [key] = countOf run ++ (keysOf run ++ [key]) by rw [← List.append_assoc, split]]
  refine split_append (isCount_countOf run) fun first isFirst => ?_
  cases behind : keysOf run with
  | cons other rest =>
    rw [behind] at isFirst
    exact not_isCount_of_head?_keysOf (by rw [behind]; exact isFirst)
  | nil =>
    rw [behind] at isFirst split
    obtain rfl : key = first := by simpa using isFirst
    rw [List.append_nil] at split
    rwa [split]

/-! ### What is held of the keys -/

/-- The number that the digits of a count make, if there are any. -/
def countValue? (digits : List Char) : Option Nat :=
  if digits.isEmpty then none else some (min (Decimal.valueOf digits) greatestCount)

theorem isSome_countValue? : (countValue? digits).isSome = true ↔ digits ≠ [] := by
  cases digits <;> simp [countValue?]

/-- A key sequence that has been given keys which have led to nothing yet. -/
def holding (keymap : Keymap) (run : List Char) : KeySequence :=
  ⟨keymap, countValue? (countOf run), String.ofList (keysOf run)⟩

/-- The bound may be taken before a digit comes behind a number or after. -/
theorem appendDigit_min (n digit : Nat) :
    appendDigit (some (min n greatestCount)) digit = min (10 * n + digit) greatestCount := by
  rw [appendDigit, Option.getD_some]
  omega

theorem countValue?_concat (digits : List Char) (digit : Char) :
    countValue? (digits ++ [digit]) =
      some (appendDigit (countValue? digits) (Decimal.digitValue digit)) := by
  have concat := Decimal.valueOf_concat digits digit
  cases digits with
  | nil => simp [countValue?, appendDigit, Decimal.valueOf]
  | cons first rest =>
    rw [countValue?, if_neg (by simp), concat, countValue?, if_neg (by simp), appendDigit_min]

theorem holding_nil (keymap : Keymap) : holding keymap [] = start keymap := rfl

theorem keys_holding_isEmpty : (holding keymap run).keys.isEmpty = true ↔ keysOf run = [] := by
  rw [holding, String.isEmpty_iff, String.ofList_eq_empty_iff]

/-- A count that does not go beyond the greatest is written again as it was typed. -/
theorem countValue?_eq_some (isCount : IsCount digits) (notEmpty : digits ≠ [])
    (fits : Decimal.valueOf digits ≤ greatestCount) :
    ∃ count, countValue? digits = some count ∧ toString count = String.ofList digits := by
  refine ⟨Decimal.valueOf digits, ?_, ?_⟩
  · rw [countValue?, if_neg (by simpa using notEmpty), Nat.min_eq_left fits]
  · apply String.toList_inj.mp
    rw [String.toList_ofList]
    exact (Nat.toList_repr ..).trans (Decimal.digitChars_valueOf (isCount.leads notEmpty))

/-- The keys held are those typed. -/
theorem typed_holding (fits : Decimal.valueOf (countOf run) ≤ greatestCount) :
    (holding keymap run).typed = String.ofList run := by
  have split := countOf_append_keysOf run
  by_cases noCount : countOf run = []
  · rw [noCount, List.nil_append] at split
    rw [holding, noCount, split]
    rfl
  · obtain ⟨count, isValue, written⟩ := countValue?_eq_some (isCount_countOf run) noCount fits
    rw [holding, isValue, ← split, String.ofList_append, ← written]
    simp only [split, typed]

/-- How a binding hands on a count. -/
def countFlag (binding : Binding) (digits : List Char) : String :=
  if binding.counted = true ∧ digits ≠ [] then " --count " ++ String.ofList digits else ""

theorem lineOf_countValue? (binding : Binding) (isCount : IsCount digits)
    (fits : Decimal.valueOf digits ≤ greatestCount) :
    lineOf binding (countValue? digits) = binding.line ++ countFlag binding digits := by
  unfold countFlag
  by_cases noCount : digits = []
  · subst noCount
    rw [if_neg (by simp)]
    exact String.append_empty.symm
  · obtain ⟨count, isValue, written⟩ := countValue?_eq_some isCount noCount fits
    rw [isValue, ← written]
    cases counted : binding.counted with
    | false => simp [lineOf, counted]
    | true =>
      rw [if_pos ⟨rfl, noCount⟩, ← String.append_assoc]
      exact if_pos counted

/-! ### One key -/

/-- A colon before any key of a binding. -/
def Asks (run : List Char) (key : Char) : Prop := key = commandLineKey ∧ keysOf run = []

/-- What a key leads to behind keys that have led to nothing yet. -/
inductive Answers (keymap : Keymap) (run : List Char) (key : Char) : KeyOutcome → Prop where
  | counts (isCount : IsCount (run ++ [key])) : Answers keymap run key .pending
  | asks (asks : Asks run key) : Answers keymap run key .commandLine
  | binds (noCount : ¬IsCount (run ++ [key])) (noColon : ¬Asks run key) {binding : Binding}
      (bound : keymap.lookup? (String.ofList (keysOf (run ++ [key]))) = some binding) :
      Answers keymap run key (.command (lineOf binding (countValue? (countOf (run ++ [key])))))
  | grows (noCount : ¬IsCount (run ++ [key])) (noColon : ¬Asks run key)
      (unbound : keymap.lookup? (String.ofList (keysOf (run ++ [key]))) = none)
      (grows : keymap.Grows (String.ofList (keysOf (run ++ [key])))) :
      Answers keymap run key .pending
  | ends (noCount : ¬IsCount (run ++ [key])) (noColon : ¬Asks run key)
      (unbound : keymap.lookup? (String.ofList (keysOf (run ++ [key]))) = none)
      (ends : ¬keymap.Grows (String.ofList (keysOf (run ++ [key])))) :
      Answers keymap run key (.unbound (holding keymap (run ++ [key])).typed)

theorem Asks.not_isCount (asks : Asks run key) : ¬IsCount (run ++ [key]) := by
  intro isCount
  have isDigit := isCount.areDigits key (by simp)
  rw [asks.1] at isDigit
  exact absurd isDigit (by decide)

/-- A key leads to one outcome. -/
theorem Answers.unique {first second : KeyOutcome} (leads : Answers keymap run key first)
    (too : Answers keymap run key second) : first = second := by
  cases leads <;> cases too <;> simp_all [Asks.not_isCount]

/-- A key is taken for a digit of the count where the keys with it are a count. -/
theorem holding_takes_digit_iff :
    ((holding keymap run).keys.isEmpty && key.isDigit &&
      (key ≠ '0' || (holding keymap run).count.isSome)) = true ↔ IsCount (run ++ [key]) := by
  have counted : (holding keymap run).count.isSome = true ↔ countOf run ≠ [] := isSome_countValue?
  rw [isCount_concat_iff, ← keysOf_eq_nil_iff]
  simp only [Bool.and_eq_true, Bool.or_eq_true, keys_holding_isEmpty, counted, decide_eq_true_eq,
    and_assoc]
  refine and_congr_right fun noKeys => ?_
  rw [(split_of_isCount (keysOf_eq_nil_iff.mp noKeys)).1]

theorem holding_asks_iff :
    ((holding keymap run).keys.isEmpty && key = commandLineKey) = true ↔ Asks run key := by
  simp only [Bool.and_eq_true, keys_holding_isEmpty, decide_eq_true_eq, Asks, and_comm]

theorem push_holding_of_isCount (isCount : IsCount (run ++ [key])) :
    (holding keymap run).push key = (.pending, holding keymap (run ++ [key])) := by
  have splitBefore := split_of_isCount isCount.of_append
  have splitNow := split_of_isCount isCount
  rw [push, countAfter?, if_pos (holding_takes_digit_iff.mpr isCount), holding, holding,
    splitBefore.1, splitBefore.2, splitNow.1, splitNow.2, countValue?_concat]
  rfl

theorem pushBound_holding (noCount : ¬IsCount (run ++ [key])) (noColon : ¬Asks run key) :
    ∃ outcome, Answers keymap run key outcome ∧
      (holding keymap run).pushBound key = (outcome, holding keymap (kept run key outcome)) := by
  obtain ⟨sameCount, moreKeys⟩ := split_concat noCount
  have count : (holding keymap run).count = countValue? (countOf (run ++ [key])) := by
    rw [sameCount]
    rfl
  have keys : (holding keymap run).keys.push key = String.ofList (keysOf (run ++ [key])) := by
    simp [holding, moreKeys]
  have sameKeymap : (holding keymap run).keymap = keymap := rfl
  simp only [pushBound, count, keys, sameKeymap]
  cases bound : keymap.lookup? (String.ofList (keysOf (run ++ [key]))) with
  | some binding => exact ⟨_, .binds noCount noColon bound, rfl⟩
  | none =>
    by_cases grows : keymap.Grows (String.ofList (keysOf (run ++ [key])))
    · have canGrow := Keymap.canGrow_iff_grows.mpr grows
      exact ⟨.pending, .grows noCount noColon bound grows, if_pos canGrow⟩
    · have cannotGrow := mt Keymap.canGrow_iff_grows.mp grows
      exact ⟨_, .ends noCount noColon bound grows, if_neg cannotGrow⟩

/-- A key leads to what the keys held and this one call for, and what is held afterwards are the
keys that still wait. -/
theorem push_holding (keymap : Keymap) (run : List Char) (key : Char) :
    ∃ outcome, Answers keymap run key outcome ∧
      (holding keymap run).push key = (outcome, holding keymap (kept run key outcome)) := by
  by_cases isCount : IsCount (run ++ [key])
  · exact ⟨.pending, .counts isCount, push_holding_of_isCount isCount⟩
  · have noDigit : (holding keymap run).countAfter? key = none :=
      if_neg fun digit => isCount (holding_takes_digit_iff.mp digit)
    rw [push, noDigit]
    by_cases colon : Asks run key
    · exact ⟨.commandLine, .asks colon, if_pos (holding_asks_iff.mpr colon)⟩
    · obtain ⟨outcome, leads, pushed⟩ := pushBound_holding isCount colon
      exact ⟨outcome, leads, (if_neg (mt holding_asks_iff.mp colon)).trans pushed⟩

/-! ### Runs of keys -/

/-- Whatever keys are typed, those since the last answer are held. -/
theorem after_holding (keymap : Keymap) (run keys : List Char) :
    (holding keymap run).after keys = holding keymap ((holding keymap run).unanswered run keys) := by
  induction keys generalizing run with
  | nil => rfl
  | cons key rest inductionHypothesis =>
    obtain ⟨outcome, -, pushed⟩ := push_holding keymap run key
    rw [unanswered, pushed]
    exact (congrArg (·.2.after rest) pushed).trans (inductionHypothesis _)

theorem push_holding_of_answers {outcome : KeyOutcome} (leads : Answers keymap run key outcome) :
    (holding keymap run).push key = (outcome, holding keymap (kept run key outcome)) := by
  obtain ⟨other, leadsToo, pushed⟩ := push_holding keymap run key
  rwa [leads.unique leadsToo]

/-- Keys of which each waits for more are held together. -/
theorem outcomes_of_waits {keys : List Char}
    (waits : ∀ before key behind, keys = before ++ key :: behind →
      Answers keymap (run ++ before) key .pending) :
    (holding keymap run).outcomes keys = List.replicate keys.length .pending ∧
      (holding keymap run).after keys = holding keymap (run ++ keys) := by
  induction keys generalizing run with
  | nil => simp [outcomes, after]
  | cons key rest inductionHypothesis =>
    have pushed : (holding keymap run).push key = (.pending, holding keymap (run ++ [key])) :=
      push_holding_of_answers (by simpa using waits [] key rest rfl)
    have restWaits : ∀ before other behind, rest = before ++ other :: behind →
        Answers keymap (run ++ [key] ++ before) other .pending := by
      rintro before other behind rfl
      simpa using waits (key :: before) other behind rfl
    obtain ⟨waited, held⟩ := inductionHypothesis restWaits
    constructor
    · rw [outcomes, pushed, waited]
      rfl
    · rw [List.append_cons, ← held, after, List.foldl_cons, pushed]
      rfl

/-- Nothing is answered while a count is typed. -/
theorem outcomes_of_isCount (keymap : Keymap) (isCount : IsCount digits) :
    (holding keymap []).outcomes digits = List.replicate digits.length .pending ∧
      (holding keymap []).after digits = holding keymap digits := by
  refine outcomes_of_waits fun before key behind split => .counts ?_
  rw [split, List.append_cons] at isCount
  exact isCount.of_append

/-! ### The law of key sequences -/

/-- The law that a key obeys behind keys that have led to nothing yet. -/
structure Law (keymap : Keymap) (run : List Char) (key : Char) (pushed : KeyOutcome × KeySequence) :
    Prop where
  commandLine : pushed.1 = .commandLine ↔ Asks run key
  command (line : String) : pushed.1 = .command line ↔
    ¬Asks run key ∧ keysOf (run ++ [key]) ≠ [] ∧
      ∃ binding, keymap.lookup? (String.ofList (keysOf (run ++ [key]))) = some binding ∧
        line = binding.line ++ countFlag binding (countOf (run ++ [key]))
  pending : pushed.1 = .pending ↔
    keysOf (run ++ [key]) = [] ∨
      ¬Asks run key ∧ keymap.lookup? (String.ofList (keysOf (run ++ [key]))) = none ∧
        keymap.Grows (String.ofList (keysOf (run ++ [key])))
  unbound (keys : String) : pushed.1 = .unbound keys → keys = String.ofList (run ++ [key])
  typed_of_pending : pushed.1 = .pending → pushed.2.typed = String.ofList (run ++ [key])
  typed_of_answered : pushed.1 ≠ .pending → pushed.2.typed = ""

theorem law_holding (fits : Decimal.valueOf (countOf (run ++ [key])) ≤ greatestCount) :
    Law keymap run key ((holding keymap run).push key) := by
  obtain ⟨outcome, leads, pushed⟩ := push_holding keymap run key
  have line (binding : Binding) := lineOf_countValue? binding (isCount_countOf (run ++ [key])) fits
  rw [pushed]
  constructor
  case commandLine =>
    constructor
    · rintro rfl
      cases leads with
      | asks asks => exact asks
    · exact fun asks => leads.unique (.asks asks)
  case command =>
    intro text
    constructor
    · rintro rfl
      cases leads with
      | binds noCount noColon bound =>
        exact ⟨noColon, mt keysOf_eq_nil_iff.mp noCount, _, bound, line _⟩
    · rintro ⟨noColon, hasKeys, binding, bound, rfl⟩
      rw [← line]
      exact leads.unique (.binds (mt keysOf_eq_nil_iff.mpr hasKeys) noColon bound)
  case pending =>
    constructor
    · rintro rfl
      cases leads with
      | counts isCount => exact .inl (keysOf_eq_nil_iff.mpr isCount)
      | grows _ noColon unbound grows => exact .inr ⟨noColon, unbound, grows⟩
    · rintro (noKeys | ⟨noColon, unbound, grows⟩)
      · exact leads.unique (.counts (keysOf_eq_nil_iff.mp noKeys))
      · by_cases isCount : IsCount (run ++ [key])
        · exact leads.unique (.counts isCount)
        · exact leads.unique (.grows isCount noColon unbound grows)
  case unbound =>
    rintro keys rfl
    cases leads with
    | ends => exact typed_holding fits
  case typed_of_pending =>
    rintro rfl
    exact typed_holding fits
  case typed_of_answered =>
    intro answered
    rw [kept, if_neg answered]
    rfl

/-- Keys that can be typed for what they are bound to: they begin neither with a colon nor with a
digit, and nothing shorter at their beginning is bound. -/
structure Typable (keymap : Keymap) (first : Char) (rest : List Char) : Prop where
  noColon : first ≠ commandLineKey
  noDigit : first.isDigit = false
  unbound : ∀ start, start ≠ [] → start <+: first :: rest → start ≠ first :: rest →
    keymap.lookup? (String.ofList start) = none

namespace Typable

variable {first : Char} {before : List Char}

/-- A count before the keys stays apart from them. -/
theorem split (typable : Typable keymap first rest) (isCount : IsCount digits)
    (begins : before <+: first :: rest) :
    countOf (digits ++ before) = digits ∧ keysOf (digits ++ before) = before := by
  refine split_append isCount fun key isHead longer => ?_
  obtain rfl : first = key := by
    obtain ⟨behind, whole⟩ := begins
    cases before with
    | nil => cases isHead
    | cons other before =>
      rw [List.cons_append, List.cons.injEq] at whole
      exact whole.1.symm.trans (Option.some.inj isHead)
  have isDigit := longer.areDigits first (by simp)
  exact absurd isDigit (by simp [typable.noDigit])

/-- Each of the keys is one of the binding. -/
theorem guards (typable : Typable keymap first rest) (isCount : IsCount digits)
    (begins : before ++ [key] <+: first :: rest) :
    ¬IsCount (digits ++ before ++ [key]) ∧ ¬Asks (digits ++ before) key := by
  have splitNow := typable.split isCount begins
  have splitBefore := typable.split isCount ((List.prefix_append before [key]).trans begins)
  constructor
  · rw [← keysOf_eq_nil_iff, List.append_assoc, splitNow.2]
    simp
  · rintro ⟨colon, noKeys⟩
    rw [splitBefore.2] at noKeys
    subst noKeys
    rw [List.nil_append, List.cons_prefix_cons] at begins
    exact typable.noColon (begins.1.symm.trans colon)

theorem waits (typable : Typable keymap first rest) {binding : Binding}
    (bound : keymap.lookup? (String.ofList (first :: rest)) = some binding)
    (isCount : IsCount digits) (begins : before ++ [key] <+: first :: rest)
    (shorter : before ++ [key] ≠ first :: rest) :
    Answers keymap (digits ++ before) key .pending := by
  obtain ⟨noCount, noColon⟩ := typable.guards isCount begins
  have keys := (typable.split isCount begins).2
  rw [← List.append_assoc] at keys
  refine .grows noCount noColon ?_ ?_
  · rw [keys]
    exact typable.unbound _ (by simp) begins shorter
  · rw [keys]
    refine ⟨_, binding, bound, fun same => shorter (String.ofList_injective same).symm, ?_⟩
    simpa using begins

theorem makes (typable : Typable keymap first rest) {binding : Binding}
    (bound : keymap.lookup? (String.ofList (first :: rest)) = some binding)
    (isCount : IsCount digits) (whole : before ++ [key] = first :: rest) :
    Answers keymap (digits ++ before) key (.command (lineOf binding (countValue? digits))) := by
  have begins : before ++ [key] <+: first :: rest := whole ▸ List.prefix_rfl
  obtain ⟨noCount, noColon⟩ := typable.guards isCount begins
  obtain ⟨count, keys⟩ := typable.split isCount begins
  rw [← List.append_assoc] at count keys
  rw [← whole, ← keys] at bound
  have answers := Answers.binds noCount noColon bound
  rwa [count] at answers

/-- Keys of a binding behind a count all wait, except for the last. -/
theorem outcomes (typable : Typable keymap first rest) {binding : Binding}
    (bound : keymap.lookup? (String.ofList (first :: rest)) = some binding)
    (isCount : IsCount digits) :
    (start keymap).outcomes (digits ++ first :: rest) =
      List.replicate (digits.length + rest.length) .pending ++
        [.command (lineOf binding (countValue? digits))] := by
  obtain ⟨front, last, whole⟩ : ∃ front last, first :: rest = front ++ [last] :=
    ⟨_, _, (List.dropLast_append_getLast (List.cons_ne_nil first rest)).symm⟩
  have sameLength : front.length = rest.length := by simpa using (congrArg List.length whole).symm
  have waits : ∀ before key behind, front = before ++ key :: behind →
      Answers keymap (digits ++ before) key .pending := by
    rintro before key behind rfl
    have begins : before ++ [key] <+: first :: rest := ⟨behind ++ [last], by simp [whole]⟩
    refine typable.waits bound isCount begins fun same => ?_
    have lengths := congrArg List.length (same.trans whole)
    simp at lengths
  obtain ⟨counted, heldCount⟩ := outcomes_of_isCount keymap isCount
  obtain ⟨waited, heldFront⟩ := outcomes_of_waits waits
  have made := push_holding_of_answers (typable.makes bound isCount whole.symm)
  rw [whole, outcomes_append, ← holding_nil, counted, heldCount, outcomes_append, waited, heldFront,
    KeySequence.outcomes, made, sameLength, ← List.append_assoc, List.replicate_append_replicate]
  rfl

end Typable

/-- What a key leads to is told by the keys typed since the last answer, and these are also what is
given back of them. So keys that can be typed for what they are bound to lead to it, behind a count
or not. -/
theorem obeys_law :
    (∀ (keymap : Keymap) (keys : List Char) (key : Char),
      Decimal.valueOf (countOf ((start keymap).unanswered [] keys ++ [key])) ≤ greatestCount →
        Law keymap ((start keymap).unanswered [] keys) key (((start keymap).after keys).push key)) ∧
    ∀ (keymap : Keymap) (before : List Char), (start keymap).unanswered [] before = [] →
      ∀ (first : Char) (rest : List Char) (binding : Binding), Typable keymap first rest →
        keymap.lookup? (String.ofList (first :: rest)) = some binding →
        ∀ digits : List Char, IsCount digits → Decimal.valueOf digits ≤ greatestCount →
          ((start keymap).after before).outcomes (digits ++ first :: rest) =
            List.replicate (digits.length + rest.length) .pending ++
              [.command (binding.line ++ countFlag binding digits)] := by
  constructor
  · intro keymap keys key fits
    have held := after_holding keymap [] keys
    rw [holding_nil] at held
    rw [held]
    exact law_holding fits
  · intro keymap before answered first rest binding typable bound digits isCount fits
    have held := after_holding keymap [] before
    rw [holding_nil, answered] at held
    rw [held, holding_nil, typable.outcomes bound isCount, lineOf_countValue? binding isCount fits]

/-- After keys that make nothing, a count is handed on to a motion and dropped for a deletion. -/
theorem counts_typed_after_unbound_keys :
    (((start .standard).after "zx12".toList).push 'j').1 = .command "down --count 12" ∧
      ((start .standard).after "zx".toList).outcomes "2dd".toList =
        [.pending, .pending, .command "delete --confirm"] := by
  have run : (start .standard).unanswered [] "zx12".toList = ['1', '2'] := by decide +kernel
  have law := obeys_law.1 .standard "zx12".toList 'j' (by rw [run]; decide +kernel)
  rw [run] at law
  constructor
  · refine (law.command _).mpr ⟨?_, by decide, ⟨"down", true⟩, by decide +kernel, by decide +kernel⟩
    exact fun asks => absurd asks.1 (by decide)
  · refine obeys_law.2 .standard "zx".toList (by decide +kernel) 'd' ['d']
      ⟨"delete --confirm", false⟩ ⟨by decide, by decide, ?_⟩ (by decide +kernel) ['2']
      ⟨by simp [Decimal.AreDigits], by decide⟩ (by decide)
    intro start notEmpty begins shorter
    have listed : start ∈ [[], ['d'], ['d', 'd']] := (List.mem_inits start ['d', 'd']).mpr begins
    obtain rfl : start = ['d'] := by simpa [notEmpty, shorter] using listed
    decide +kernel

end MindMap.KeySequence
