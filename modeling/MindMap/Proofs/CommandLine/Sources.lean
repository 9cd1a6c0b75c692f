import MindMap.CommandLine.Invocation
import MindMap.Proofs.CommandLine.Rereading

/-!
# What arguments are read from

An argument on a line is either a bare flag or a word. A word that names a node does so by its
spelling, less the quotes around it, whatever else the word may be read as: `FromWords.spelled?`. What a
line gives under a key stays, unless a later flag gives the key again: `holds_ofWords`.
-/

namespace MindMap.CommandLine

/-! ### Words that spell something -/

theorem isQuote_eq_false_of_isDecimalDigit {c : Char} (digit : Text.isDecimalDigit c = true) :
    isQuote c = false := by
  refine eq_false_of_ne_true fun quote => ?_
  simp only [isQuote, Bool.or_eq_true, decide_eq_true_eq] at quote
  rcases quote with rfl | rfl <;> exact absurd digit (by decide)

/-- Nothing that ends in a digit has quotes around it. -/
theorem not_isWrapped_of_digits {word : String} {before digits : List Char}
    (written : word.toList = before ++ digits) (notEmpty : digits ≠ [])
    (all : digits.all Text.isDecimalDigit = true) : ¬IsWrapped word := by
  rintro ⟨quote, inner, isQuote, wrapped⟩
  have ends : digits.getLast? = some quote := by
    rw [← List.getLast?_append_of_ne_nil before notEmpty, ← written, wrapped, ← List.cons_append,
      List.getLast?_concat]
  have digit := List.all_eq_true.mp all quote (List.mem_of_getLast? ends)
  rw [isQuote_eq_false_of_isDecimalDigit digit] at isQuote
  cases isQuote

theorem exists_sign (word : List Char) : ∃ sign, word = sign ++ (takeMinus word).2 := by
  unfold takeMinus
  split
  · exact ⟨['-'], rfl⟩
  · exact ⟨[], rfl⟩

theorem not_isWrapped_of_isIntegerShape {word : String}
    (shape : isIntegerShape word.toList = true) : ¬IsWrapped word := by
  obtain ⟨sign, whole⟩ := exists_sign word.toList
  have digits : (takeMinus word.toList).2 ≠ [] ∧
      (takeMinus word.toList).2.all Text.isDecimalDigit = true := by
    simpa [isIntegerShape] using shape
  exact not_isWrapped_of_digits whole digits.1 digits.2

/-- A number with a point has its last digit behind the point. -/
theorem exists_point_of_isNumberShape {word : String} (shape : isNumberShape word.toList = true) :
    '.' ∈ word.toList ∧ ¬IsWrapped word := by
  obtain ⟨sign, whole⟩ := exists_sign word.toList
  unfold isNumberShape at shape
  split at shape
  · next fraction pointed =>
    rw [← List.takeWhile_append_dropWhile (p := Text.isDecimalDigit) (l := (takeMinus word.toList).2),
      pointed, ← List.append_assoc] at whole
    have digits : fraction ≠ [] ∧ fraction.all Text.isDecimalDigit = true := by simpa using shape
    have bare := not_isWrapped_of_digits (whole.trans (List.append_cons ..)) digits.1 digits.2
    refine ⟨?_, bare⟩
    rw [whole]
    exact List.mem_append_right _ List.mem_cons_self
  · cases shape

theorem exists_digit_of_readInteger? {word : List Char} {n : Int}
    (read : readInteger? word = some n) : ∃ c ∈ word, c.isDigit = true := by
  obtain ⟨sign, whole⟩ := exists_sign word
  unfold readInteger? at read
  dsimp only at read
  split at read
  · next digits =>
    obtain ⟨notEmpty, all⟩ :
        (takeMinus word).2 ≠ [] ∧ (takeMinus word).2.all Char.isDigit = true := by
      simpa using digits
    obtain ⟨c, member⟩ := List.exists_mem_of_ne_nil _ notEmpty
    refine ⟨c, ?_, List.all_eq_true.mp all c member⟩
    rw [whole]
    exact List.mem_append_right sign member
  · cases read

theorem allBlank_eq_false {text : String} {c : Char} (member : c ∈ text.toList)
    (noBlank : Text.isBlank c = false) : Text.allBlank text = false := by
  refine eq_false_of_ne_true fun blank => ?_
  rw [List.all_eq_true.mp blank c member] at noBlank
  cases noBlank

/-- How a value belongs to the spelling that is kept for it. A number may name a node, by its
spelling, so that is never blank. -/
inductive Value.ReadFrom : Option String → Value → Prop
  | truth {source : Option String} {b : Bool} : ReadFrom source (.truth b)
  | text {content : String} : ReadFrom (some content) (.text content)
  | integer {spelling : String} {n : Int} (spells : Text.allBlank spelling = false) :
      ReadFrom (some spelling) (.integer n)
  | number {spelling : String} {x : Float} (spells : Text.allBlank spelling = false) :
      ReadFrom (some spelling) (.number x)

theorem Value.ReadFrom.text_source {source : Option String} {content : String}
    (read : ReadFrom source (.text content)) : source = some content := by
  cases read
  rfl

/-- Only a check marks a value as a node id. -/
theorem Value.not_readFrom_nodeId {source : Option String} {id : String} :
    ¬ReadFrom source (.nodeId id) := by
  rintro ⟨⟩

theorem Value.readFrom_ofWord (word : String) :
    (ofWord word).ReadFrom (some (stripQuotes word)) := by
  unfold ofWord
  split
  · exact .truth
  · split
    · exact .truth
    · split
      · next shape =>
        rw [stripQuotes_of_not_isWrapped (not_isWrapped_of_isIntegerShape shape)]
        split
        · next read =>
          obtain ⟨c, member, digit⟩ := exists_digit_of_readInteger? read
          exact .integer (allBlank_eq_false member (isBlank_of_isDigit digit))
        · exact .text
      · split
        · next shape =>
          obtain ⟨point, bare⟩ := exists_point_of_isNumberShape shape
          rw [stripQuotes_of_not_isWrapped bare]
          split
          · exact .number (allBlank_eq_false point (by decide))
          · exact .text
        · exact .text

/-- A word is a truth value only if it is spelled as one. -/
theorem Value.ofWord_ne_truth {word : String} (notTrue : word ≠ "true") (notFalse : word ≠ "false")
    (b : Bool) : ofWord word ≠ .truth b := by
  unfold ofWord
  rw [if_neg notTrue, if_neg notFalse]
  split
  · split <;> simp
  · split
    · split <;> simp
    · simp

/-! ### Reading words into arguments -/

namespace Arguments

variable {args : Arguments} {key : String}

theorem get?_insert (args : Arguments) (name key : String) (value : Value) :
    (args.insert name value).get? key = if key = name then some value else args.get? key :=
  Table.get?_insert ..

theorem source?_insert (args : Arguments) (name key : String) (value : Value) :
    (args.insert name value).source? key = if key = name then none else args.source? key :=
  Table.get?_erase ..

theorem get?_insertWord (args : Arguments) (name key word : String) :
    (args.insertWord name word).get? key =
      if key = name then some (.ofWord word) else args.get? key :=
  Table.get?_insert ..

theorem source?_insertWord (args : Arguments) (name key word : String) :
    (args.insertWord name word).source? key =
      if key = name then some (stripQuotes word) else args.source? key :=
  Table.get?_insert ..

/-- Arguments are determined by what can be looked up in them. -/
theorem ext_get? {first second : Arguments}
    (values : ∀ key, first.get? key = second.get? key)
    (sources : ∀ key, first.source? key = second.source? key) : first = second := by
  obtain ⟨firstValues, firstSources⟩ := first
  obtain ⟨secondValues, secondSources⟩ := second
  obtain rfl : firstValues = secondValues := Table.ext_get? values
  obtain rfl : firstSources = secondSources := Table.ext_get? sources
  rfl

/-- What holds of arguments still holds when words have been read into them, if no flag among the
words breaks it, and no position from the next one on. -/
theorem readWords_invariant (holds : Arguments → Prop) {words : List String} {index : Nat}
    (flags : ∀ flag ∈ words, ∀ name, flag? flag = some name → ∀ args, holds args →
      holds (args.insert name (.truth true)) ∧ ∀ word, holds (args.insertWord name word))
    (places : ∀ place, index ≤ place → ∀ args, holds args →
      ∀ word, holds (args.insertWord (positionalKey place) word))
    (start : holds args) : holds (readWords words index args) := by
  fun_induction readWords words index args with
  | case1 index args => exact start
  | case2 word index args name isFlag =>
    exact (flags word List.mem_cons_self name isFlag args start).1
  | case3 word index args noFlag => exact places index (Nat.le_refl index) args start word
  | case4 word next rest index args name isFlag nextFlag inductionHypothesis =>
    refine inductionHypothesis (fun flag member => flags flag (List.mem_cons_of_mem _ member)) places ?_
    exact (flags word List.mem_cons_self name isFlag args start).1
  | case5 word next rest index args name isFlag nextFlag inductionHypothesis =>
    refine inductionHypothesis (fun flag member => flags flag ?_) places ?_
    · exact List.mem_cons_of_mem _ (List.mem_cons_of_mem _ member)
    · exact (flags word List.mem_cons_self name isFlag args start).2 next
  | case6 word next rest index args noFlag inductionHypothesis =>
    refine inductionHypothesis (fun flag member => flags flag (List.mem_cons_of_mem _ member))
      (fun place later => places place (Nat.le_of_succ_le later)) ?_
    exact places index (Nat.le_refl index) args start word

/-- Every value belongs to the spelling that is kept for it. -/
def FromWords (args : Arguments) : Prop :=
  ∀ key value, args.get? key = some value → value.ReadFrom (args.source? key)

theorem FromWords.insert_true (fromWords : args.FromWords) (name : String) :
    (args.insert name (.truth true)).FromWords := by
  intro key value found
  rw [get?_insert] at found
  rw [source?_insert]
  split at found
  · cases found
    exact .truth
  · next different =>
    rw [if_neg different]
    exact fromWords key value found

theorem FromWords.insertWord (fromWords : args.FromWords) (name word : String) :
    (args.insertWord name word).FromWords := by
  intro key value found
  rw [get?_insertWord] at found
  rw [source?_insertWord]
  split at found
  · next same =>
    cases found
    rw [if_pos same]
    exact Value.readFrom_ofWord word
  · next different =>
    rw [if_neg different]
    exact fromWords key value found

theorem fromWords_ofWords (words : List String) : (ofWords words).FromWords := by
  refine readWords_invariant FromWords (fun _ _ name _ args fromWords => ?_)
    (fun place _ args fromWords word => fromWords.insertWord _ word) ?_
  · exact ⟨fromWords.insert_true name, fun word => fromWords.insertWord name word⟩
  · intro key value found
    cases found

/-- What an argument spells is what is kept for it. -/
theorem FromWords.source?_of_spelled? (fromWords : args.FromWords) {id : String}
    (spelled : args.spelled? key = some id) : args.source? key = some id := by
  unfold spelled? at spelled
  split at spelled
  · next content found => exact (fromWords key _ found).text_source.trans spelled
  · next content found => exact absurd (fromWords key _ found) Value.not_readFrom_nodeId
  · exact spelled
  · exact spelled
  · cases spelled
  · cases spelled

/-! ### Where a word stands -/

/-- A key holds what a word reads as. -/
structure Holds (args : Arguments) (key word : String) : Prop where
  value : args.get? key = some (.ofWord word)
  source : args.source? key = some (stripQuotes word)

variable {word : String}

theorem holds_insertWord (args : Arguments) (key word : String) :
    (args.insertWord key word).Holds key word := by
  constructor
  · rw [get?_insertWord, if_pos rfl]
  · rw [source?_insertWord, if_pos rfl]

theorem Holds.insert (held : args.Holds key word) {name : String} (different : key ≠ name)
    (value : Value) : (args.insert name value).Holds key word := by
  constructor
  · rw [get?_insert, if_neg different, held.value]
  · rw [source?_insert, if_neg different, held.source]

theorem Holds.insertWord (held : args.Holds key word) {name : String} (different : key ≠ name)
    (other : String) : (args.insertWord name other).Holds key word := by
  constructor
  · rw [get?_insertWord, if_neg different, held.value]
  · rw [source?_insertWord, if_neg different, held.source]

/-- No flag among the words has the name. -/
def NoFlag (name : String) (words : List String) : Prop := ∀ word ∈ words, flag? word ≠ some name

instance (name : String) (words : List String) : Decidable (NoFlag name words) :=
  List.decidableBAll (fun word => flag? word ≠ some name) words

theorem Holds.readWords (held : args.Holds key word) {words : List String} {index : Nat}
    (noFlag : NoFlag key words) (noPlace : ∀ place, index ≤ place → key ≠ positionalKey place) :
    (readWords words index args).Holds key word := by
  refine readWords_invariant (·.Holds key word) (fun flag member name isFlag args held => ?_)
    (fun place later args held other => held.insertWord (noPlace place later) other) held
  have different : key ≠ name := by
    rintro rfl
    exact noFlag flag member isFlag
  exact ⟨held.insert different _, held.insertWord different⟩

theorem get?_readWords (absent : args.get? key = none) {words : List String} {index : Nat}
    (noFlag : NoFlag key words) (noPlace : ∀ place, index ≤ place → key ≠ positionalKey place) :
    (Arguments.readWords words index args).get? key = none := by
  refine readWords_invariant (·.get? key = none)
    (fun flag member name isFlag args absent => ?_)
    (fun place later args absent other => ?_) absent
  · have different : key ≠ name := by
      rintro rfl
      exact noFlag flag member isFlag
    simp [get?_insert, get?_insertWord, different, absent]
  · simp [get?_insertWord, noPlace place later, absent]

/-- Words that are flags, some of them with values. -/
inductive AreFlags : List String → Prop
  | nil : AreFlags []
  | bare {flag next : String} {rest : List String} (isFlag : (flag? flag).isSome)
      (nextFlag : (flag? next).isSome) (others : AreFlags (next :: rest)) :
      AreFlags (flag :: next :: rest)
  | valued {flag value : String} {rest : List String} (isFlag : (flag? flag).isSome)
      (noFlag : flag? value = none) (others : AreFlags rest) : AreFlags (flag :: value :: rest)

/-- Behind flags, the next word has the place that it would have without them. -/
theorem readWords_append_of_areFlags {flags : List String} (areFlags : AreFlags flags)
    (rest : List String) (index : Nat) (args : Arguments) :
    Arguments.readWords (flags ++ rest) index args =
      Arguments.readWords rest index (Arguments.readWords flags index args) := by
  induction areFlags generalizing args with
  | nil => rfl
  | bare isFlag nextFlag _ inductionHypothesis =>
    obtain ⟨name, isFlag⟩ := Option.isSome_iff_exists.mp isFlag
    simpa [Arguments.readWords, isFlag, nextFlag] using inductionHypothesis _
  | valued isFlag noFlag _ inductionHypothesis =>
    obtain ⟨name, isFlag⟩ := Option.isSome_iff_exists.mp isFlag
    simpa [Arguments.readWords, isFlag, noFlag] using inductionHypothesis _

theorem readWords_cons (noFlag : flag? word = none) (rest : List String) (index : Nat)
    (args : Arguments) :
    Arguments.readWords (word :: rest) index args =
      Arguments.readWords rest (index + 1) (args.insertWord (positionalKey index) word) := by
  cases rest <;> simp [Arguments.readWords, noFlag]

/-- A flag takes the word behind it, whatever stands before the flag. -/
theorem readWords_append_flag (noFlag : flag? word = none) (before rest : List String)
    (index : Nat) (args : Arguments) :
    ∃ place, index ≤ place ∧
      Arguments.readWords (before ++ ("--" ++ key) :: word :: rest) index args =
        Arguments.readWords rest place
          ((Arguments.readWords before index args).insertWord key word) := by
  fun_induction Arguments.readWords before index args with
  | case1 index args => exact ⟨index, Nat.le_refl index, by simp [Arguments.readWords, noFlag]⟩
  | case2 other index args name isFlag =>
    exact ⟨index, Nat.le_refl index, by simp [Arguments.readWords, isFlag, noFlag]⟩
  | case3 other index args otherNoFlag =>
    exact ⟨index + 1, Nat.le_succ index, by simp [Arguments.readWords, otherNoFlag, noFlag]⟩
  | case4 other next others index args name isFlag nextFlag inductionHypothesis =>
    obtain ⟨place, later, same⟩ := inductionHypothesis
    exact ⟨place, later, by simpa [Arguments.readWords, isFlag, nextFlag] using same⟩
  | case5 other next others index args name isFlag nextFlag inductionHypothesis =>
    obtain ⟨place, later, same⟩ := inductionHypothesis
    exact ⟨place, later, by simpa [Arguments.readWords, isFlag, nextFlag] using same⟩
  | case6 other next others index args otherNoFlag inductionHypothesis =>
    obtain ⟨place, later, same⟩ := inductionHypothesis
    exact ⟨place, Nat.le_of_succ_le later, by simpa [Arguments.readWords, otherNoFlag] using same⟩

theorem positionalKey_injective {first second : Nat}
    (same : positionalKey first = positionalKey second) : first = second := by
  have sameDigits : Nat.toDigits 10 first = Nat.toDigits 10 second := by
    simpa [positionalKey, toString] using congrArg String.toList same
  simpa using congrArg (Nat.ofDigitChars 10 · 0) sameDigits

/-- The words before and behind a word that is the first one beside flags and their values, where a
key is given nowhere, or that is the last one given under the key. -/
inductive TargetPlace (key : String) : List String → List String → Prop
  | first {before after : List String} (flags : AreFlags before)
      (noKey : NoFlag key (before ++ after)) (noZero : NoFlag (positionalKey 0) after) :
      TargetPlace key before after
  | flag (before : List String) {after : List String} (last : NoFlag key after) :
      TargetPlace key (before ++ ["--" ++ key]) after

/-- The key holds the word, or it holds nothing and the word is the first. -/
theorem TargetPlace.holds {before after : List String} (place : TargetPlace key before after)
    (noFlag : flag? word = none) (named : ∀ place, key ≠ positionalKey place) :
    (ofWords (before ++ word :: after)).Holds key word ∨
      (ofWords (before ++ word :: after)).get? key = none ∧
        (ofWords (before ++ word :: after)).Holds (positionalKey 0) word := by
  cases place with
  | first flags noKey noZero =>
    have unnamed : (Arguments.readWords before 0 .empty).get? key = none :=
      get?_readWords rfl (fun flag member => noKey flag (List.mem_append_left after member))
        fun place _ => named place
    have stillUnnamed :
        ((Arguments.readWords before 0 .empty).insertWord (positionalKey 0) word).get? key = none := by
      rw [get?_insertWord, if_neg (named 0), unnamed]
    rw [ofWords, readWords_append_of_areFlags flags, readWords_cons noFlag]
    refine .inr ⟨get?_readWords stillUnnamed ?_ fun place _ => named place, ?_⟩
    · exact fun flag member => noKey flag (List.mem_append_right before member)
    · refine (holds_insertWord _ _ word).readWords noZero fun place later same => ?_
      have isZero := positionalKey_injective same
      omega
  | flag before last =>
    obtain ⟨place, -, read⟩ := @readWords_append_flag key word noFlag before after 0 .empty
    rw [List.append_assoc, List.singleton_append, ofWords, read]
    exact .inl ((holds_insertWord _ key word).readWords last fun place _ => named place)

end Arguments

/-- An invocation is the first word of its line with the arguments of the others. -/
theorem Invocation.exists_words_of_ofLine {line : String} {invocation : Invocation}
    (read : ofLine line = .ok invocation) :
    ∃ name rest, words line = .ok (name :: rest) ∧ invocation = ⟨name, .ofWords rest, line⟩ := by
  unfold ofLine at read
  cases split : words line with
  | error error =>
    rw [split] at read
    cases read
  | ok list =>
    rw [split] at read
    cases list with
    | nil => cases read
    | cons name rest =>
      cases read
      exact ⟨name, rest, rfl, rfl⟩

theorem Invocation.fromWords_ofLine {line : String} {invocation : Invocation}
    (read : ofLine line = .ok invocation) : invocation.args.FromWords := by
  obtain ⟨_, rest, -, rfl⟩ := exists_words_of_ofLine read
  exact Arguments.fromWords_ofWords rest

end MindMap.CommandLine
