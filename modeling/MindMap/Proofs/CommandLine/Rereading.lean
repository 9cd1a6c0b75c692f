import MindMap.CommandLine.Invocation
import MindMap.Proofs.CommandLine.Spelling
import MindMap.Proofs.CommandLine.Values

/-!
# Written invocations are read again

An invocation that a program builds also writes the line that would say it. Read again, that line
gives the same command the same arguments, each as the value that its text reads as:
`ofLine_ofArguments`. Quoting makes one word of every text, whatever is in it, and a flag takes the
word behind it as its value unless that word looks like a flag itself.

That last case is not repaired by quotes, which are gone before flags are looked for; it is ruled
out here by a condition on the values. Names and keys are written without quotes, so they must be
plain.
-/

namespace MindMap.CommandLine

/-! ### Quoted words -/

/-- A text without blanks, quotes or backslashes. -/
def IsPlain (text : String) : Prop := ∀ c ∈ text.toList, needsQuotes c = false

instance (text : String) : Decidable (IsPlain text) :=
  List.decidableBAll (fun c => needsQuotes c = false) text.toList

theorem needsQuotes_eq (c : Char) : needsQuotes c = (Text.isBlank c || isSpecialOutside c) := by
  simp [needsQuotes, isSpecialOutside, Bool.or_assoc]

/-- Where nothing is special, nothing is escaped. -/
theorem escape_eq_self {special : Char → Bool} {text : List Char}
    (plain : ∀ c ∈ text, special c = false) : escape special text = text := by
  induction text with
  | nil => rfl
  | cons c rest inductionHypothesis =>
    have later := inductionHypothesis fun other member =>
      plain other (List.mem_cons_of_mem _ member)
    simp [escape, escapeChar, plain c List.mem_cons_self] at later ⊢
    exact later

theorem escapeSingle_eq (text : List Char) :
    escapeSingle text = escape (isSpecialInside '\'') text := by
  induction text with
  | nil => rfl
  | cons c rest inductionHypothesis =>
    have first : escapeSingle (c :: rest) =
        escapeChar (isSpecialInside '\'') c ++ escapeSingle rest := by
      rw [escapeSingle]
      unfold escapeChar isSpecialInside
      split <;> rfl
    rw [first, inductionHypothesis]
    rfl

/-- A plain text that is not empty is written as it is. -/
theorem IsPlain.spellsWord {text : String} (plain : IsPlain text) (notEmpty : text ≠ "") :
    SpellsWord text.toList text.toList := by
  have parts : ∀ c ∈ text.toList, Text.isBlank c = false ∧ isSpecialOutside c = false := by
    intro c member
    simpa [needsQuotes_eq] using plain c member
  have bare : SpellsPart text.toList (escape isSpecialOutside text.toList) :=
    .bare (by simpa using notEmpty) fun c member => (parts c member).1
  rw [escape_eq_self fun c member => (parts c member).2] at bare
  exact .part bare

/-- Quoting writes every text as one word. -/
theorem spellsWord_quoteWord (text : String) :
    SpellsWord text.toList (quoteWord text).toList := by
  unfold quoteWord
  split
  · next plain =>
    have parts : text ≠ "" ∧ IsPlain text := by simpa [IsPlain] using plain
    exact parts.2.spellsWord parts.1
  · rw [String.toList_ofList, escapeSingle_eq]
    exact .part (.quoted rfl text.toList)

/-! ### Flags on a line -/

/-- The words of an argument that is given by a flag. -/
def flagWords (entry : String × Value) : List String := ["--" ++ entry.1, entry.2.display]

theorem toList_writeFlag (entry : String × Value) :
    (Invocation.writeFlag entry).toList =
      [' '] ++ (("--" ++ entry.1).toList ++ ([' '] ++ (quoteWord entry.2.display).toList)) := by
  change (" --" ++ entry.1 ++ " " ++ quoteWord entry.2.display).toList = _
  simp

theorem IsPlain.flag {key : String} (plain : IsPlain key) :
    SpellsWord ("--" ++ key).toList ("--" ++ key).toList := by
  have hyphens : IsPlain "--" := by decide
  have whole : IsPlain ("--" ++ key) := by
    intro c member
    rw [String.toList_append, List.mem_append] at member
    exact member.elim (hyphens c) (plain c)
  exact whole.spellsWord (by simp [← String.toList_inj])

/-- A line goes on behind a word with any number of flags. -/
theorem spellsWords_flags {entries : List (String × Value)}
    (plainKeys : ∀ entry ∈ entries, IsPlain entry.1) {word : String} {written : List Char}
    (spells : SpellsWord word.toList written) :
    SpellsWords (word :: entries.flatMap flagWords)
      (written ++ entries.flatMap fun entry => (Invocation.writeFlag entry).toList) := by
  have space : IsGap [' '] := by decide
  induction entries generalizing word written with
  | nil => exact .last spells (by decide)
  | cons entry rest inductionHypothesis =>
    have value := inductionHypothesis
      (fun other member => plainKeys other (List.mem_cons_of_mem _ member))
      (spellsWord_quoteWord entry.2.display)
    have flag := (plainKeys entry List.mem_cons_self).flag
    have whole := SpellsWords.cons spells space (by simp)
      (.cons flag space (by simp) value)
    simpa [flagWords, toList_writeFlag] using whole

theorem toList_writeLine (name : String) (args : Arguments) :
    (Invocation.writeLine name args).toList =
      name.toList ++ args.values.entries.flatMap fun entry =>
        (Invocation.writeFlag entry).toList := by
  unfold Invocation.writeLine
  induction args.values.entries generalizing name with
  | nil => simp
  | cons entry rest inductionHypothesis => simp [inductionHypothesis]

/-- The words of a written line are the name and, for each argument, its flag and its text. -/
theorem words_writeLine {name : String} {args : Arguments} (plainName : IsPlain name)
    (named : name ≠ "") (plainKeys : ∀ entry ∈ args.values.entries, IsPlain entry.1) :
    words (Invocation.writeLine name args) =
      .ok (name :: args.values.entries.flatMap flagWords) := by
  apply words_of_spellsWords
  rw [toList_writeLine]
  exact spellsWords_flags plainKeys (plainName.spellsWord named)

/-! ### Arguments from flags -/

namespace Arguments

@[simp] theorem flag?_hyphens (key : String) : flag? ("--" ++ key) = some key := by
  simp [flag?]

/-- Flags with values that are no flags are read one after another. -/
theorem readWords_flags {entries : List (String × Value)}
    (values : ∀ entry ∈ entries, flag? entry.2.display = none) (index : Nat) (args : Arguments) :
    readWords (entries.flatMap flagWords) index args =
      entries.foldl (fun args entry => args.insertWord entry.1 entry.2.display) args := by
  induction entries generalizing args with
  | nil => rfl
  | cons entry rest inductionHypothesis =>
    have noFlag := values entry List.mem_cons_self
    simp only [List.flatMap_cons, flagWords, List.cons_append, List.nil_append, List.foldl_cons]
    rw [readWords, flag?_hyphens]
    simp only [noFlag, Option.isSome_none, Bool.false_eq_true, if_false]
    exact inductionHypothesis (fun other member => values other (List.mem_cons_of_mem _ member)) _

theorem foldl_insertWord (entries : List (String × Value)) (args : Arguments) :
    entries.foldl (fun args entry => args.insertWord entry.1 entry.2.display) args =
      ⟨entries.foldl (fun table entry => table.insert entry.1 (.ofWord entry.2.display))
          args.values,
        entries.foldl (fun table entry => table.insert entry.1 (stripQuotes entry.2.display))
          args.sources⟩ := by
  induction entries generalizing args with
  | nil => rfl
  | cons entry rest inductionHypothesis => exact inductionHypothesis _

end Arguments

/-! ### Reading a written line -/

/-- Arguments again, after they have been written and read. -/
structure Arguments.Rereads (args reread : Arguments) : Prop where
  /-- No argument is lost, and none is made up. -/
  contains : ∀ key, reread.contains key = args.contains key
  /-- The value is what the text of the value before reads as. -/
  values : ∀ key, reread.get? key = (args.get? key).map fun value => .ofWord value.display
  /-- Every value is read from a word. -/
  sources : ∀ key, reread.source? key = (args.get? key).map fun value => stripQuotes value.display
  integers : ∀ key n, args.integer? key = some n → FitsInteger n → reread.integer? key = some n
  truths : ∀ key b, args.truth? key = some b → reread.truth? key = some b
  /-- A text comes back if nothing else can be read from it. -/
  texts : ∀ key content, args.text? key = some content → ¬IsLiteral content → ¬IsWrapped content →
    reread.text? key = some content

theorem Arguments.get?_ofWords_flags {args : Arguments}
    (values : ∀ entry ∈ args.values.entries, flag? entry.2.display = none) (key : String) :
    (ofWords (args.values.entries.flatMap flagWords)).get? key =
      (args.get? key).map fun value => .ofWord value.display := by
  rw [ofWords, readWords_flags values, foldl_insertWord]
  have found := Table.get?_foldl_insert args.values.increasing
    (fun value => Value.ofWord value.display) .empty key
  exact found.trans Option.or_none

theorem Arguments.source?_ofWords_flags {args : Arguments}
    (values : ∀ entry ∈ args.values.entries, flag? entry.2.display = none) (key : String) :
    (ofWords (args.values.entries.flatMap flagWords)).source? key =
      (args.get? key).map fun value => stripQuotes value.display := by
  rw [ofWords, readWords_flags values, foldl_insertWord]
  have found := Table.get?_foldl_insert args.values.increasing
    (fun value => stripQuotes value.display) .empty key
  exact found.trans Option.or_none

/-- Arguments that were written as flags are read again, each from its text. -/
theorem Arguments.rereads_ofWords {args : Arguments}
    (noFlags : ∀ entry ∈ args.values.entries, flag? entry.2.display = none) :
    args.Rereads (ofWords (args.values.entries.flatMap flagWords)) := by
  have byValue := get?_ofWords_flags noFlags
  constructor
  case values => exact byValue
  case contains =>
    intro key
    have same := congrArg Option.isSome (byValue key)
    rwa [Option.isSome_map] at same
  case sources => exact source?_ofWords_flags noFlags
  case integers =>
    intro key n given fits
    obtain ⟨value, found, isInteger⟩ := Option.bind_eq_some_iff.mp given
    cases value <;> cases isInteger
    rw [integer?, byValue, found, Option.map_some, Value.display, Value.ofWord_toString,
      if_pos fits]
    rfl
  case truths =>
    intro key b given
    obtain ⟨value, found, isTruth⟩ := Option.bind_eq_some_iff.mp given
    cases value <;> cases isTruth
    rw [truth?, byValue, found]
    cases b <;> rfl
  case texts =>
    intro key content given notLiteral bare
    obtain ⟨value, found, isText⟩ := Option.bind_eq_some_iff.mp given
    cases value <;> cases isText <;>
      rw [text?, byValue, found, Option.map_some, Value.display,
        Value.ofWord_of_not_isLiteral notLiteral bare] <;> rfl

theorem Arguments.flag?_eq_none {word : String} (noFlag : ¬['-', '-'] <+: word.toList) :
    flag? word = none := by
  unfold flag?
  split
  · next name starts => exact absurd ⟨name, starts.symm⟩ noFlag
  · rfl

namespace Invocation

/-- The line that is written for an invocation reads as the same command with the same arguments, as
far as their texts say what they were. -/
theorem ofLine_ofArguments {name : String} {args : Arguments} (plainName : IsPlain name)
    (named : name ≠ "") (plainKeys : ∀ entry ∈ args.values.entries, IsPlain entry.1)
    (noFlags : ∀ entry ∈ args.values.entries, ¬['-', '-'] <+: entry.2.display.toList) :
    ∃ reread, ofLine (ofArguments name args).line = .ok reread ∧ reread.name = name ∧
      args.Rereads reread.args := by
  have values : ∀ entry ∈ args.values.entries, Arguments.flag? entry.2.display = none :=
    fun entry member => Arguments.flag?_eq_none (noFlags entry member)
  have split := words_writeLine plainName named plainKeys
  refine ⟨⟨name, .ofWords (args.values.entries.flatMap flagWords), writeLine name args⟩, ?_, rfl,
    Arguments.rereads_ofWords values⟩
  unfold ofLine ofArguments
  rw [split]
  rfl

/-- Arguments under an empty key and under a numeral, with texts that must be quoted and a text that
reads as a number. -/
def variedArguments : Arguments := .ofList
  [("", .text "it's \"two\" words\\"), ("0", .integer (-7)), ("deep", .truth false),
    ("id", .nodeId ""), ("n", .text "007")]

theorem ofLine_ofArguments_varied :
    ∃ reread, ofLine (ofArguments "note" variedArguments).line = .ok reread ∧
      reread.args.text? "" = some "it's \"two\" words\\" ∧
      reread.args.integer? "0" = some (-7) ∧ reread.args.truth? "deep" = some false ∧
      reread.args.get? "n" = some (.integer 7) ∧ reread.args.source? "n" = some "007" := by
  obtain ⟨reread, read, _, rereads⟩ :=
    ofLine_ofArguments (show IsPlain "note" by decide) (by decide)
      (show ∀ entry ∈ variedArguments.values.entries, IsPlain entry.1 by decide) (by decide)
  refine ⟨reread, read, ?_, rereads.integers "0" (-7) rfl (by decide),
    rereads.truths "deep" false rfl, rereads.values "n", rereads.sources "n"⟩
  refine rereads.texts "" _ rfl ?_ ?_
  · unfold IsLiteral
    decide
  · rintro ⟨quote, inner, isQuote, wrapped⟩
    obtain rfl : 'i' = quote := (List.cons.inj wrapped).1
    exact absurd isQuote (by decide)

end Invocation

end MindMap.CommandLine
