import Mathlib.Data.List.Nodup
import MindMap.Proofs.CommandLine.Sources

/-!
# Arguments as items

The words behind a command's name are items one after another: positional words, flags with a value and
bare flags. A word belongs to the item that it belongs to because of its neighbours, yet there is only
one way to take the words apart: `Itemizes.unique`.

Each item gives one key a value, and where no two give the same key nothing is lost or made up. The
arguments are then determined by the positional words in their order and by the flags in any order:
`words_are_classified`. Positional words share their keys with flags that are named by numerals, so
that such names must be kept apart.
-/

namespace MindMap.CommandLine

/-! ### Items -/

/-- A word that begins with two hyphens. -/
def IsFlag (word : String) : Prop := ['-', '-'] <+: word.toList

instance (word : String) : Decidable (IsFlag word) :=
  inferInstanceAs (Decidable (['-', '-'] <+: word.toList))

theorem isFlag_iff {word : String} : IsFlag word ↔ ∃ name, word = "--" ++ name := by
  constructor
  · rintro ⟨name, starts⟩
    refine ⟨.ofList name, ?_⟩
    rw [← String.toList_inj, ← starts]
    simp
  · rintro ⟨name, rfl⟩
    exact ⟨name.toList, by simp⟩

/-- One argument, as it stands behind a command's name. -/
inductive Item where
  | positional (word : String)
  | valued (name word : String)
  | bare (name : String)
deriving DecidableEq, Repr

namespace Item

/-- The word of a positional item. -/
def positional? : Item → Option String
  | positional word => some word
  | valued .. | bare _ => none

/-- The name of a flag. -/
def name? : Item → Option String
  | positional _ => none
  | valued name _ | bare name => some name

/-- The value that an item gives. -/
def value : Item → Value
  | positional word | valued _ word => .ofWord word
  | bare _ => .truth true

/-- The word that the value is read from, less the quotes around it. -/
def source : Item → Option String
  | positional word | valued _ word => some (stripQuotes word)
  | bare _ => none

end Item

/-- The positional words among items, in order. -/
def positionalWords (items : List Item) : List String := items.filterMap Item.positional?

/-- The names of the flags among items, in order. -/
def flagNames (items : List Item) : List String := items.filterMap Item.name?

/-- How words are taken apart into items: a flag takes the word behind it unless that is a flag too. -/
inductive Itemizes : List String → List Item → Prop
  | nil : Itemizes [] []
  | positional {word : String} {words : List String} {items : List Item} (noFlag : ¬IsFlag word)
      (rest : Itemizes words items) : Itemizes (word :: words) (.positional word :: items)
  | valued {flag name word : String} {words : List String} {items : List Item}
      (spelled : flag = "--" ++ name) (noFlag : ¬IsFlag word) (rest : Itemizes words items) :
      Itemizes (flag :: word :: words) (.valued name word :: items)
  | bare {flag name : String} {words : List String} {items : List Item}
      (spelled : flag = "--" ++ name) (ends : ∀ next ∈ words.head?, IsFlag next)
      (rest : Itemizes words items) : Itemizes (flag :: words) (.bare name :: items)

theorem exists_itemizes : ∀ words : List String, ∃ items, Itemizes words items
  | [] => ⟨[], .nil⟩
  | [word] => by
    by_cases flag : IsFlag word
    · obtain ⟨name, spelled⟩ := isFlag_iff.mp flag
      exact ⟨[.bare name], .bare spelled (by simp) .nil⟩
    · exact ⟨[.positional word], .positional flag .nil⟩
  | word :: next :: rest => by
    by_cases flag : IsFlag word
    · obtain ⟨name, spelled⟩ := isFlag_iff.mp flag
      by_cases nextFlag : IsFlag next
      · obtain ⟨items, itemizes⟩ := exists_itemizes (next :: rest)
        exact ⟨.bare name :: items, .bare spelled (by simpa using nextFlag) itemizes⟩
      · obtain ⟨items, itemizes⟩ := exists_itemizes rest
        exact ⟨.valued name next :: items, .valued spelled nextFlag itemizes⟩
    · obtain ⟨items, itemizes⟩ := exists_itemizes (next :: rest)
      exact ⟨.positional word :: items, .positional flag itemizes⟩

theorem eq_of_spelled {flag first second : String} (one : flag = "--" ++ first)
    (other : flag = "--" ++ second) : first = second := by
  have same := congrArg Arguments.flag? (one.symm.trans other)
  simpa using same

/-- Words can be taken apart in one way only. -/
theorem Itemizes.unique {words : List String} {items others : List Item}
    (itemizes : Itemizes words items) (other : Itemizes words others) : items = others := by
  induction itemizes generalizing others with
  | nil =>
    cases other
    rfl
  | positional noFlag _ inductionHypothesis =>
    cases other with
    | positional _ rest => rw [inductionHypothesis rest]
    | valued spelled => exact absurd (isFlag_iff.mpr ⟨_, spelled⟩) noFlag
    | bare spelled => exact absurd (isFlag_iff.mpr ⟨_, spelled⟩) noFlag
  | valued spelled noFlag _ inductionHypothesis =>
    cases other with
    | positional notFlag => exact absurd (isFlag_iff.mpr ⟨_, spelled⟩) notFlag
    | valued otherSpelled _ rest =>
      rw [eq_of_spelled spelled otherSpelled, inductionHypothesis rest]
    | bare _ ends => exact absurd (ends _ rfl) noFlag
  | bare spelled ends _ inductionHypothesis =>
    cases other with
    | positional notFlag => exact absurd (isFlag_iff.mpr ⟨_, spelled⟩) notFlag
    | valued _ notFlag => exact absurd (ends _ rfl) notFlag
    | bare otherSpelled _ rest =>
      rw [eq_of_spelled spelled otherSpelled, inductionHypothesis rest]

/-! ### The keys of items -/

/-- Items with the keys that they give, behind `index` positional ones. -/
def keyed : List Item → Nat → List (String × Item)
  | [], _ => []
  | .positional word :: rest, index =>
    (positionalKey index, .positional word) :: keyed rest (index + 1)
  | .valued name word :: rest, index => (name, .valued name word) :: keyed rest index
  | .bare name :: rest, index => (name, .bare name) :: keyed rest index

theorem length_keyed (items : List Item) (index : Nat) :
    (keyed items index).length = items.length := by
  fun_induction keyed items index <;> simp [*]

theorem mem_keyed_of_name? {items : List Item} {item : Item} {name : String} (member : item ∈ items)
    (named : item.name? = some name) (index : Nat) : (name, item) ∈ keyed items index := by
  fun_induction keyed items index with
  | case1 => cases member
  | case2 word rest index inductionHypothesis =>
    rcases List.mem_cons.mp member with rfl | member
    · cases named
    · exact List.mem_cons_of_mem _ (inductionHypothesis member)
  | case3 other word rest index inductionHypothesis | case4 other rest index inductionHypothesis =>
    rcases List.mem_cons.mp member with rfl | member
    · cases named
      exact List.mem_cons_self
    · exact List.mem_cons_of_mem _ (inductionHypothesis member)

theorem mem_keyed_of_positional {items : List Item} {word : String} {place : Nat}
    (found : (positionalWords items)[place]? = some word) (index : Nat) :
    (positionalKey (index + place), .positional word) ∈ keyed items index := by
  fun_induction keyed items index generalizing place with
  | case1 => simp [positionalWords] at found
  | case2 other rest index inductionHypothesis =>
    cases place with
    | zero =>
      obtain rfl : other = word := by simpa [positionalWords, Item.positional?] using found
      exact List.mem_cons_self
    | succ place =>
      have foundLater : (positionalWords rest)[place]? = some word := by
        simpa [positionalWords, Item.positional?] using found
      have later := inductionHypothesis foundLater
      rw [Nat.add_right_comm, Nat.add_assoc] at later
      exact List.mem_cons_of_mem _ later
  | case3 name other rest index inductionHypothesis | case4 name rest index inductionHypothesis =>
    exact List.mem_cons_of_mem _ (inductionHypothesis found)

/-- The keys are the names of the flags and the numerals of the positional words. -/
theorem perm_keys_keyed (items : List Item) (index : Nat) :
    ((keyed items index).map (·.1)).Perm
      (flagNames items ++
        (List.range' index (positionalWords items).length).map positionalKey) := by
  fun_induction keyed items index with
  | case1 => exact .nil
  | case2 word rest index inductionHypothesis =>
    exact (inductionHypothesis.cons (positionalKey index)).trans List.perm_middle.symm
  | case3 name word rest index inductionHypothesis | case4 name rest index inductionHypothesis =>
    exact inductionHypothesis.cons name

/-- No two items give the same key: no flag is repeated, and none is named by the numeral of a
positional word. -/
structure Unambiguous (items : List Item) : Prop where
  distinct : (flagNames items).Nodup
  apart : ∀ place < (positionalWords items).length, positionalKey place ∉ flagNames items

instance (items : List Item) : Decidable (Unambiguous items) :=
  decidable_of_iff ((flagNames items).Nodup ∧
      ∀ place < (positionalWords items).length, positionalKey place ∉ flagNames items)
    ⟨fun both => ⟨both.1, both.2⟩, fun both => ⟨both.distinct, both.apart⟩⟩

theorem mem_keys_keyed_iff {items : List Item} {key : String} :
    key ∈ (keyed items 0).map (·.1) ↔ key ∈ flagNames items ∨
      ∃ place < (positionalWords items).length, key = positionalKey place := by
  rw [(perm_keys_keyed items 0).mem_iff, List.mem_append]
  simp [List.mem_range'_1, eq_comm]

theorem Unambiguous.nodup_keys {items : List Item} (unambiguous : Unambiguous items) :
    ((keyed items 0).map (·.1)).Nodup := by
  rw [(perm_keys_keyed items 0).nodup_iff, List.nodup_append']
  refine ⟨unambiguous.distinct, ?_, ?_⟩
  · exact (List.nodup_range').map fun _ _ => Arguments.positionalKey_injective
  · intro key named isPlace
    obtain ⟨place, inRange, rfl⟩ := List.mem_map.mp isPlace
    have bounded := (List.mem_range'_1.mp inRange).2
    exact unambiguous.apart place (by omega) named

/-! ### Reading items -/

namespace Arguments

variable {args : Arguments} {key : String}

/-- Put under a key what an item gives. -/
def put (args : Arguments) (entry : String × Item) : Arguments :=
  match entry.2 with
  | .positional word | .valued _ word => args.insertWord entry.1 word
  | .bare _ => args.insert entry.1 (.truth true)

theorem get?_put (args : Arguments) (entry : String × Item) (key : String) :
    (args.put entry).get? key = if key = entry.1 then some entry.2.value else args.get? key := by
  obtain ⟨name, item⟩ := entry
  cases item with
  | positional word => exact get?_insertWord ..
  | valued _ word => exact get?_insertWord ..
  | bare _ => exact get?_insert ..

theorem source?_put (args : Arguments) (entry : String × Item) (key : String) :
    (args.put entry).source? key = if key = entry.1 then entry.2.source else args.source? key := by
  obtain ⟨name, item⟩ := entry
  cases item with
  | positional word => exact source?_insertWord ..
  | valued _ word => exact source?_insertWord ..
  | bare _ => exact source?_insert ..

/-- Words are read item by item. -/
theorem readWords_of_itemizes {words : List String} {items : List Item}
    (itemizes : Itemizes words items) (index : Nat) (args : Arguments) :
    readWords words index args = (keyed items index).foldl put args := by
  induction itemizes generalizing index args with
  | nil => rfl
  | positional noFlag _ inductionHypothesis =>
    rw [readWords_cons (flag?_eq_none noFlag)]
    exact inductionHypothesis ..
  | @valued flag name word words items spelled noFlag _ inductionHypothesis =>
    subst spelled
    have later := inductionHypothesis index (args.insertWord name word)
    simpa [readWords, keyed, put, flag?_eq_none noFlag] using later
  | @bare flag name words items spelled ends _ inductionHypothesis =>
    subst spelled
    have later := inductionHypothesis index (args.insert name (.truth true))
    cases words with
    | nil => simpa [readWords, keyed, put] using later
    | cons next rest =>
      obtain ⟨nextName, rfl⟩ := isFlag_iff.mp (ends next rfl)
      simpa [readWords, keyed, put] using later

/-- A key that no item gives stays as it is. -/
theorem foldl_put_of_not_mem (args : Arguments) {entries : List (String × Item)}
    (fresh : key ∉ entries.map (·.1)) :
    (entries.foldl put args).get? key = args.get? key ∧
      (entries.foldl put args).source? key = args.source? key := by
  induction entries generalizing args with
  | nil => exact ⟨rfl, rfl⟩
  | cons entry rest inductionHypothesis =>
    obtain ⟨different, restFresh⟩ := not_or.mp (List.mem_cons.not.mp fresh)
    obtain ⟨value, source⟩ := inductionHypothesis (args.put entry) restFresh
    rw [get?_put, if_neg different] at value
    rw [source?_put, if_neg different] at source
    exact ⟨value, source⟩

/-- A key that one item gives holds what it gives. -/
theorem foldl_put_of_mem (args : Arguments) {entries : List (String × Item)}
    (distinct : (entries.map (·.1)).Nodup) {item : Item} (member : (key, item) ∈ entries) :
    (entries.foldl put args).get? key = some item.value ∧
      (entries.foldl put args).source? key = item.source := by
  induction entries generalizing args with
  | nil => cases member
  | cons entry rest inductionHypothesis =>
    obtain ⟨fresh, distinctRest⟩ := List.nodup_cons.mp distinct
    rcases List.mem_cons.mp member with rfl | later
    · obtain ⟨value, source⟩ := foldl_put_of_not_mem (args.put (key, item)) fresh
      rw [get?_put, if_pos rfl] at value
      rw [source?_put, if_pos rfl] at source
      exact ⟨value, source⟩
    · exact inductionHypothesis _ distinctRest later

/-! ### Arguments and their items -/

/-- The positional arguments are listed up to the first place that is empty. -/
theorem positionalsFrom_eq {list : List Value} {fuel index : Nat} (enough : list.length ≤ fuel)
    (found : ∀ place value, list[place]? = some value →
      args.positional? (index + place) = some value)
    (ends : args.positional? (index + list.length) = none) :
    args.positionalsFrom fuel index = list := by
  induction list generalizing fuel index with
  | nil =>
    cases fuel with
    | zero => rfl
    | succ fuel =>
      rw [positionalsFrom, show args.positional? index = none from ends]
  | cons value rest inductionHypothesis =>
    obtain ⟨fuel, rfl⟩ : ∃ more, fuel = more + 1 := ⟨fuel - 1, by simp at enough; omega⟩
    have first : args.positional? index = some value := found 0 value rfl
    rw [positionalsFrom, first]
    dsimp only
    rw [inductionHypothesis (by simpa using enough) ?_ ?_]
    · intro place other isOther
      rw [Nat.add_right_comm, Nat.add_assoc]
      exact found (place + 1) other (by simpa using isOther)
    · rw [Nat.add_right_comm, Nat.add_assoc]
      exact ends

/-- A table has as many entries as there are keys. -/
theorem size_eq_length {keys : List String} (nodup : keys.Nodup)
    (same : ∀ key, key ∈ keys ↔ args.contains key = true) : args.size = keys.length := by
  have perm : args.values.keys.Perm keys := by
    refine (List.perm_ext_iff_of_nodup args.values.nodup_keys nodup).mpr fun key => ?_
    exact Table.mem_keys_iff.trans (same key).symm
  have lengths := perm.length_eq
  rwa [Table.keys, List.length_map] at lengths

section Reading

variable {words : List String} {items : List Item}

theorem ofWords_of_itemizes (itemizes : Itemizes words items) :
    ofWords words = (keyed items 0).foldl put empty :=
  readWords_of_itemizes itemizes 0 empty

theorem holds_ofWords_positional (itemizes : Itemizes words items)
    (unambiguous : Unambiguous items) {place : Nat} {word : String}
    (found : (positionalWords items)[place]? = some word) :
    (ofWords words).Holds (positionalKey place) word := by
  have member := mem_keyed_of_positional found 0
  rw [Nat.zero_add] at member
  obtain ⟨value, source⟩ := foldl_put_of_mem empty unambiguous.nodup_keys member
  rw [ofWords_of_itemizes itemizes]
  exact ⟨value, source⟩

theorem lookups_ofWords_flag (itemizes : Itemizes words items) (unambiguous : Unambiguous items)
    {item : Item} {name : String} (member : item ∈ items) (named : item.name? = some name) :
    (ofWords words).get? name = some item.value ∧ (ofWords words).source? name = item.source := by
  rw [ofWords_of_itemizes itemizes]
  exact foldl_put_of_mem empty unambiguous.nodup_keys (mem_keyed_of_name? member named 0)

theorem lookups_ofWords_of_not_mem (itemizes : Itemizes words items)
    (fresh : key ∉ (keyed items 0).map (·.1)) :
    (ofWords words).get? key = none ∧ (ofWords words).source? key = none := by
  rw [ofWords_of_itemizes itemizes]
  exact foldl_put_of_not_mem empty fresh

/-- Each item is one argument. -/
theorem size_ofWords (itemizes : Itemizes words items) (unambiguous : Unambiguous items) :
    (ofWords words).size = items.length := by
  rw [← length_keyed items 0, ← List.length_map (·.1), size_eq_length unambiguous.nodup_keys]
  intro key
  constructor
  · intro member
    obtain ⟨⟨_, item⟩, isEntry, rfl⟩ := List.mem_map.mp member
    have given := (foldl_put_of_mem empty unambiguous.nodup_keys isEntry).1
    rw [ofWords_of_itemizes itemizes]
    exact Option.isSome_iff_exists.mpr ⟨_, given⟩
  · intro present
    by_contra fresh
    obtain ⟨value, found⟩ := Option.isSome_iff_exists.mp present
    cases (lookups_ofWords_of_not_mem itemizes fresh).1.symm.trans found

/-- The positional words are listed in order, up to a flag that would be taken for one more. -/
theorem positionals_ofWords (itemizes : Itemizes words items) (unambiguous : Unambiguous items)
    (noNext : positionalKey (positionalWords items).length ∉ flagNames items) :
    (ofWords words).positionals = (positionalWords items).map .ofWord := by
  refine positionalsFrom_eq ?_ ?_ ?_
  · rw [size_ofWords itemizes unambiguous, List.length_map]
    exact List.length_filterMap_le ..
  · intro place value found
    rw [List.getElem?_map] at found
    obtain ⟨word, isWord, rfl⟩ := Option.map_eq_some_iff.mp found
    rw [Nat.zero_add]
    exact (holds_ofWords_positional itemizes unambiguous isWord).value
  · rw [Nat.zero_add, List.length_map]
    refine (lookups_ofWords_of_not_mem itemizes fun member => ?_).1
    rcases mem_keys_keyed_iff.mp member with isFlag | ⟨place, bounded, isPlace⟩
    · exact noNext isFlag
    · have same := positionalKey_injective isPlace
      omega

end Reading

/-- Arguments are what items give, no more and no less. -/
structure Classifies (args : Arguments) (items : List Item) : Prop where
  positional : ∀ place word, (positionalWords items)[place]? = some word →
    args.Holds (positionalKey place) word
  valued : ∀ name word, .valued name word ∈ items → args.Holds name word
  bare : ∀ name, .bare name ∈ items →
    args.get? name = some (.truth true) ∧ args.source? name = none
  nothingElse : ∀ key, key ∉ flagNames items →
    (∀ place < (positionalWords items).length, key ≠ positionalKey place) →
    args.get? key = none ∧ args.source? key = none
  size : args.size = items.length
  positionals : positionalKey (positionalWords items).length ∉ flagNames items →
    args.positionals = (positionalWords items).map .ofWord

theorem classifies_ofWords {words : List String} {items : List Item}
    (itemizes : Itemizes words items) (unambiguous : Unambiguous items) :
    (ofWords words).Classifies items where
  positional := fun _ _ found => holds_ofWords_positional itemizes unambiguous found
  valued := by
    intro name word member
    obtain ⟨value, source⟩ := lookups_ofWords_flag itemizes unambiguous member rfl
    exact ⟨value, source⟩
  bare := fun _ member => lookups_ofWords_flag itemizes unambiguous member rfl
  nothingElse := by
    intro key noFlag noPlace
    refine lookups_ofWords_of_not_mem itemizes fun member => ?_
    rcases mem_keys_keyed_iff.mp member with isFlag | ⟨place, bounded, isPlace⟩
    · exact noFlag isFlag
    · exact noPlace place bounded isPlace
  size := size_ofWords itemizes unambiguous
  positionals := positionals_ofWords itemizes unambiguous

theorem Classifies.lookups_of_flag {items : List Item} {item : Item}
    (classifies : args.Classifies items) (member : item ∈ items) (named : item.name? = some key) :
    args.get? key = some item.value ∧ args.source? key = item.source := by
  cases item with
  | positional word => cases named
  | valued name word =>
    cases named
    have held := classifies.valued key word member
    exact ⟨held.value, held.source⟩
  | bare name =>
    cases named
    exact classifies.bare key member

/-- The positional words in their order and the flags in any order determine the arguments. -/
theorem Classifies.eq {others : Arguments} {items otherItems : List Item}
    (classifies : args.Classifies items) (otherClassifies : others.Classifies otherItems)
    (positionals : positionalWords otherItems = positionalWords items)
    (flags : ∀ item, item.name?.isSome = true → (item ∈ otherItems ↔ item ∈ items)) :
    others = args := by
  have same : ∀ key, others.get? key = args.get? key ∧ others.source? key = args.source? key := by
    intro key
    by_cases isFlag : key ∈ flagNames items
    · obtain ⟨item, member, named⟩ := List.mem_filterMap.mp isFlag
      have otherMember := (flags item (by rw [named]; rfl)).mpr member
      obtain ⟨value, source⟩ := classifies.lookups_of_flag member named
      obtain ⟨otherValue, otherSource⟩ := otherClassifies.lookups_of_flag otherMember named
      exact ⟨otherValue.trans value.symm, otherSource.trans source.symm⟩
    · by_cases isPlace : ∃ place < (positionalWords items).length, key = positionalKey place
      · obtain ⟨place, bounded, rfl⟩ := isPlace
        obtain ⟨word, found⟩ : ∃ word, (positionalWords items)[place]? = some word :=
          ⟨_, List.getElem?_eq_getElem bounded⟩
        have held := classifies.positional place word found
        have otherHeld := otherClassifies.positional place word (positionals ▸ found)
        exact ⟨otherHeld.value.trans held.value.symm, otherHeld.source.trans held.source.symm⟩
      · have otherNoFlag : key ∉ flagNames otherItems := by
          intro isOther
          obtain ⟨item, member, named⟩ := List.mem_filterMap.mp isOther
          have isItem := (flags item (by rw [named]; rfl)).mp member
          exact isFlag (List.mem_filterMap.mpr ⟨item, isItem, named⟩)
        have noPlace : ∀ place < (positionalWords items).length, key ≠ positionalKey place :=
          fun place bounded isKey => isPlace ⟨place, bounded, isKey⟩
        have otherNoPlace : ∀ place < (positionalWords otherItems).length,
            key ≠ positionalKey place := by rwa [positionals]
        obtain ⟨value, source⟩ := classifies.nothingElse key isFlag noPlace
        obtain ⟨otherValue, otherSource⟩ :=
          otherClassifies.nothingElse key otherNoFlag otherNoPlace
        exact ⟨otherValue.trans value.symm, otherSource.trans source.symm⟩
  exact ext_get? (fun key => (same key).1) fun key => (same key).2

/-- Words are items in one way. If no two of these give the same key, the arguments are what the items
give, and any other words with the same positional ones in the same order and the same flags give the
same arguments. -/
theorem words_are_classified (words : List String) :
    (∃! items, Itemizes words items) ∧
    ∀ items, Itemizes words items → Unambiguous items →
      (ofWords words).Classifies items ∧
      ∀ others otherItems, Itemizes others otherItems → Unambiguous otherItems →
        positionalWords otherItems = positionalWords items →
        (∀ item, item.name?.isSome = true → (item ∈ otherItems ↔ item ∈ items)) →
        ofWords others = ofWords words := by
  constructor
  · obtain ⟨items, itemizes⟩ := exists_itemizes words
    exact ⟨items, itemizes, fun others other => other.unique itemizes⟩
  · intro items itemizes unambiguous
    have classifies := classifies_ofWords itemizes unambiguous
    refine ⟨classifies, ?_⟩
    intro others otherItems otherItemizes otherUnambiguous positionals flags
    exact classifies.eq (classifies_ofWords otherItemizes otherUnambiguous) positionals flags

/-- Two flags change places with each other and with positional words, and a number keeps its spelling. -/
theorem flags_of_words_reordered :
    let words := ["plan", "--deep", "--id", "007", "'a b'"]
    let others := ["--id", "007", "plan", "'a b'", "--deep"]
    (ofWords words).size = 4 ∧ (ofWords words).source? "id" = some "007" ∧
      (ofWords words).positionals = [.text "plan", .text "a b"] ∧ ofWords others = ofWords words := by
  have itemizes : Itemizes ["plan", "--deep", "--id", "007", "'a b'"]
      [.positional "plan", .bare "deep", .valued "id" "007", .positional "'a b'"] :=
    .positional (by decide) (.bare rfl (by decide)
      (.valued rfl (by decide) (.positional (by decide) .nil)))
  have otherItemizes : Itemizes ["--id", "007", "plan", "'a b'", "--deep"]
      [.valued "id" "007", .positional "plan", .positional "'a b'", .bare "deep"] :=
    .valued rfl (by decide) (.positional (by decide)
      (.positional (by decide) (.bare rfl (by decide) .nil)))
  obtain ⟨classifies, reordered⟩ := (words_are_classified _).2 _ itemizes (by decide)
  refine ⟨classifies.size, (classifies.valued "id" "007" (by decide)).source,
    classifies.positionals (by decide), ?_⟩
  refine reordered _ _ otherItemizes (by decide) rfl fun item _ => ?_
  simp only [List.mem_cons, List.not_mem_nil, or_false]
  grind

end Arguments

end MindMap.CommandLine
