import Mathlib.Data.List.Sort
import MindMap.Command.Help
import MindMap.Proofs.Command.Ranking
import MindMap.Proofs.Text.ByteOrder
import MindMap.Text.Width

/-!
# The listing of commands

The listing is made from two tables of a registry, one of commands by category and one of labels by name,
and joins them by name. `Arranges` says what the first comes to: headings in order, and under each the
commands of its category in order of name, every registered command once. There is only one way to arrange
a registry so. `Command.EntersAs` says how a command stands under its heading. All descriptions begin in
one column, which the widest label fixes; no label is wider, so the room that is left for spaces is a
number, however the widths of labels are measured. That only one text meets all this, the listing, is
`Reachable.lists_commands_once`.
-/

namespace MindMap

variable {ε : Type}

/-! ### Lists in order of a key -/

/-- Lists with increasing keys and the same members are equal. -/
theorem eq_of_increasing {α : Type} {key : α → String} {left right : List α}
    (increasing : left.Pairwise (key · < key ·)) (alsoIncreasing : right.Pairwise (key · < key ·))
    (same : ∀ value, value ∈ left ↔ value ∈ right) : left = right := by
  have antisymm : Std.Antisymm fun one other : α => key one < key other :=
    ⟨fun _ _ below above => absurd (String.lt_trans below above) (String.lt_irrefl _)⟩
  have irrefl : Std.Irrefl fun one other : α => key one < key other :=
    ⟨fun _ => String.lt_irrefl _⟩
  exact increasing.eq_of_mem_iff alsoIncreasing same

theorem nodup_of_increasing {α : Type} {key : α → String} {list : List α}
    (increasing : list.Pairwise (key · < key ·)) : list.Nodup := by
  refine increasing.imp ?_
  rintro value _ below rfl
  exact String.lt_irrefl _ below

theorem Table.mem_values_iff {α : Type} {table : Table α} {value : α} :
    value ∈ table.values ↔ ∃ key, table.get? key = some value := by
  simp only [Table.get?_eq_some_iff, Table.values, List.mem_map, Prod.exists, exists_eq_right]

/-- What stands for a command in a listing whose widest label takes so many cells. -/
inductive Command.EntersAs [TextWidth] (command : Command ε) (widest : Nat) : String → Prop where
  | plain (undescribed : command.description = "") :
      EntersAs command widest ("  " ++ command.label ++ "\n")
  | described (described : command.description ≠ "") {gap : Nat} (apart : 2 ≤ gap)
      (aligned : TextWidth.width command.label + gap = widest + 2) :
      EntersAs command widest
        ("  " ++ command.label ++ Text.spaces gap ++ command.description ++ "\n")

namespace Command.EntersAs

variable [TextWidth] {command : Command ε} {widest : Nat} {text other : String}

theorem unique (enters : command.EntersAs widest text) (alsoEnters : command.EntersAs widest other) :
    text = other := by
  cases enters with
  | plain undescribed =>
    cases alsoEnters with
    | plain => rfl
    | described described => exact absurd undescribed described
  | described described _ aligned =>
    cases alsoEnters with
    | plain undescribed => exact absurd undescribed described
    | described _ _ alsoAligned =>
      rw [Nat.add_left_cancel (aligned.trans alsoAligned.symm)]

theorem listingLine (fits : TextWidth.width command.label ≤ widest) :
    command.EntersAs widest (command.listingLine (widest + 2) command.label) := by
  unfold Command.listingLine
  by_cases undescribed : command.description = ""
  · rw [if_pos (by simp [undescribed])]
    simpa using plain undescribed
  · rw [if_neg (by simp [undescribed])]
    have apart : 2 ≤ widest + 2 - TextWidth.width command.label := by omega
    have aligned : TextWidth.width command.label + (widest + 2 - TextWidth.width command.label) =
        widest + 2 := by omega
    simpa [String.append_assoc] using described undescribed apart aligned

end Command.EntersAs

namespace Registry

variable {registry : Registry ε} {command : Command ε}

/-! ### Labels -/

/-- The widest label of a registry takes so many cells. -/
structure WidestLabel [TextWidth] (registry : Registry ε) (widest : Nat) : Prop where
  fits : ∀ command ∈ registry.all, TextWidth.width command.label ≤ widest
  taken : registry.all ≠ [] → ∃ command ∈ registry.all, TextWidth.width command.label = widest

theorem WidestLabel.unique [TextWidth] {widest other : Nat} (isWidest : registry.WidestLabel widest)
    (alsoWidest : registry.WidestLabel other) (registered : registry.all ≠ []) : widest = other := by
  obtain ⟨one, isOne, takesWidest⟩ := isWidest.taken registered
  obtain ⟨two, isTwo, takesOther⟩ := alsoWidest.taken registered
  exact Nat.le_antisymm (takesWidest ▸ alsoWidest.fits one isOne)
    (takesOther ▸ isWidest.fits two isTwo)

/-- A name has the label of its command. -/
theorem Sound.get?_labels (sound : registry.Sound) (name : String) :
    registry.labels.get? name = (registry.commands.get? name).map (·.label) := by
  have folded : registry.labels = registry.commands.entries.foldl
      (fun table entry => table.insert entry.1 entry.2.label) .empty := by
    unfold labels Table.ofList all Table.values
    rw [List.map_map, List.foldl_map]
    refine List.foldl_ext _ _ _ fun table entry member => ?_
    rw [← sound.named (Table.get?_eq_some_iff.mpr member)]
    rfl
  rw [folded, Table.get?_foldl_insert registry.commands.increasing Command.label, Table.get?_empty,
    Option.or_none]
  rfl

theorem Sound.get?_labels_of_mem (sound : registry.Sound) (registered : command ∈ registry.all) :
    registry.labels.get? command.name = some command.label := by
  rw [sound.get?_labels, sound.mem_all_iff.mp registered]
  rfl

theorem Sound.mem_labels_iff (sound : registry.Sound) {label : String} :
    label ∈ registry.labels.values ↔ ∃ command ∈ registry.all, command.label = label := by
  rw [Table.mem_values_iff]
  constructor
  · rintro ⟨name, found⟩
    rw [sound.get?_labels] at found
    obtain ⟨command, byName, isLabel⟩ := Option.map_eq_some_iff.mp found
    exact ⟨command, sound.mem_all_iff.mpr (by rwa [sound.named byName]), isLabel⟩
  · rintro ⟨command, registered, rfl⟩
    exact ⟨command.name, sound.get?_labels_of_mem registered⟩

/-- Descriptions begin two cells after the widest label. -/
theorem Sound.exists_widestLabel [TextWidth] (sound : registry.Sound) :
    ∃ widest, registry.WidestLabel widest ∧ descriptionColumn registry.labels = widest + 2 := by
  refine ⟨_, ?_, rfl⟩
  obtain ⟨attained, -, most⟩ := foldl_max_eq_iff.mp (rfl :
    (registry.labels.values.map TextWidth.width).foldl max 0 = _)
  have fits : ∀ command ∈ registry.all, TextWidth.width command.label ≤
      (registry.labels.values.map TextWidth.width).foldl max 0 := fun command registered =>
    most _ (List.mem_map_of_mem (sound.mem_labels_iff.mpr ⟨command, registered, rfl⟩))
  refine ⟨fits, fun notEmpty => ?_⟩
  rcases attained with none | among
  · obtain ⟨command, registered⟩ := List.exists_mem_of_ne_nil _ notEmpty
    exact ⟨command, registered, by have := fits command registered; omega⟩
  · obtain ⟨label, isLabel, takesMost⟩ := List.mem_map.mp among
    obtain ⟨command, registered, rfl⟩ := sound.mem_labels_iff.mp isLabel
    exact ⟨command, registered, takesMost⟩

/-! ### Categories -/

/-- Commands under headings, the headings and the commands of each in the order of bytes. Every
registered command stands once, under the heading of its category. -/
structure Arranges (registry : Registry ε) (sections : List (String × List (Command ε))) : Prop where
  headings : sections.Pairwise (Text.bytes ·.1 < Text.bytes ·.1)
  names : ∀ one ∈ sections, one.2.Pairwise (Text.bytes ·.name < Text.bytes ·.name)
  filed : ∀ one ∈ sections, one.2 ≠ [] ∧ ∀ command ∈ one.2, command.categoryName = one.1
  once : (sections.flatMap (·.2)).Perm registry.all

namespace Arranges

variable {sections others : List (String × List (Command ε))} {one : String × List (Command ε)}

theorem increasing (arranges : registry.Arranges sections) : sections.Pairwise (·.1 < ·.1) :=
  arranges.headings.imp Text.bytes_lt_iff.mp

theorem increasing_names (arranges : registry.Arranges sections) (isSection : one ∈ sections) :
    one.2.Pairwise (·.name < ·.name) :=
  (arranges.names one isSection).imp Text.bytes_lt_iff.mp

/-- Every registered command stands under the heading of its category. -/
theorem exists_section (arranges : registry.Arranges sections) (registered : command ∈ registry.all) :
    ∃ one ∈ sections, one.1 = command.categoryName ∧ command ∈ one.2 := by
  obtain ⟨one, isSection, member⟩ := List.mem_flatMap.mp (arranges.once.symm.subset registered)
  exact ⟨one, isSection, ((arranges.filed one isSection).2 command member).symm, member⟩

/-- Under a heading stand all commands of that category. -/
theorem mem_iff (arranges : registry.Arranges sections) (isSection : one ∈ sections) :
    command ∈ one.2 ↔ command ∈ registry.all ∧ command.categoryName = one.1 := by
  constructor
  · intro member
    exact ⟨arranges.once.subset (List.mem_flatMap.mpr ⟨one, isSection, member⟩),
      (arranges.filed one isSection).2 command member⟩
  · rintro ⟨registered, category⟩
    obtain ⟨other, isOther, heading, member⟩ := arranges.exists_section registered
    have found := Table.getIn_of_mem arranges.increasing isSection
    have otherFound := Table.getIn_of_mem arranges.increasing isOther
    rw [heading, category] at otherFound
    rwa [Option.some.inj (found.symm.trans otherFound)]

theorem subset (arranges : registry.Arranges sections) (alsoArranges : registry.Arranges others) :
    sections ⊆ others := by
  intro one isSection
  obtain ⟨notEmpty, category⟩ := arranges.filed one isSection
  obtain ⟨command, member⟩ := List.exists_mem_of_ne_nil _ notEmpty
  obtain ⟨other, isOther, heading, -⟩ :=
    alsoArranges.exists_section ((arranges.mem_iff isSection).mp member).1
  have sameHeading : one.1 = other.1 := (heading.trans (category command member)).symm
  have sameCommands : one.2 = other.2 :=
    eq_of_increasing (arranges.increasing_names isSection)
      (alsoArranges.increasing_names isOther) fun command => by
        rw [arranges.mem_iff isSection, alsoArranges.mem_iff isOther, sameHeading]
  rwa [Prod.ext sameHeading sameCommands]

/-- A registry is arranged in one way. -/
theorem unique (arranges : registry.Arranges sections) (alsoArranges : registry.Arranges others) :
    sections = others :=
  eq_of_increasing arranges.increasing alsoArranges.increasing fun _ =>
    ⟨fun member => arranges.subset alsoArranges member,
      fun member => alsoArranges.subset arranges member⟩

end Arranges

/-- The commands of a category. -/
def ofCategory (registry : Registry ε) (heading : String) : List (Command ε) :=
  registry.all.filter (·.categoryName = heading)

/-- Filing commands one after another adds to what stands under a heading, in order. -/
theorem get?_foldl_file (commands : List (Command ε)) (table : Table (List (Command ε)))
    (heading : String) :
    (commands.foldl (fun table command => table.insert command.categoryName
        ((table.get? command.categoryName).getD [] ++ [command])) table).get? heading =
      match commands.filter (·.categoryName = heading) with
      | [] => table.get? heading
      | first :: others => some ((table.get? heading).getD [] ++ first :: others) := by
  induction commands generalizing table with
  | nil => rfl
  | cons command rest inductionHypothesis =>
    rw [List.foldl_cons, inductionHypothesis, Table.get?_insert]
    by_cases same : heading = command.categoryName
    · subst same
      cases filed : rest.filter (·.categoryName = command.categoryName) <;> simp [filed]
    · simp [same, Ne.symm same]

theorem mem_byCategory_iff {one : String × List (Command ε)} :
    one ∈ registry.byCategory.entries ↔ one.2 = registry.ofCategory one.1 ∧ one.2 ≠ [] := by
  have found : registry.byCategory.get? one.1 = match registry.ofCategory one.1 with
      | [] => none
      | first :: others => some (first :: others) :=
    get?_foldl_file registry.all .empty one.1
  rw [← Prod.mk.eta (p := one), ← Table.get?_eq_some_iff, found]
  cases registry.ofCategory one.1 with
  | nil => simp
  | cons first others =>
    rw [Option.some.injEq]
    constructor
    · intro same
      exact ⟨same.symm, same ▸ List.cons_ne_nil _ _⟩
    · exact fun same => same.1.symm

theorem mem_ofCategory_iff {heading : String} :
    command ∈ registry.ofCategory heading ↔
      command ∈ registry.all ∧ command.categoryName = heading := by
  simp [ofCategory]

theorem Sound.arranges_byCategory (sound : registry.Sound) :
    registry.Arranges registry.byCategory.entries := by
  have ordered := fun heading => List.Pairwise.filter (fun command : Command ε =>
    command.categoryName = heading) sound.pairwise_all
  constructor
  case headings => exact registry.byCategory.increasing.imp Text.bytes_lt_iff.mpr
  case names =>
    intro one isSection
    rw [(mem_byCategory_iff.mp isSection).1]
    exact (ordered one.1).imp Text.bytes_lt_iff.mpr
  case filed =>
    intro one isSection
    obtain ⟨all, notEmpty⟩ := mem_byCategory_iff.mp isSection
    refine ⟨notEmpty, fun command member => ?_⟩
    rw [all] at member
    exact (mem_ofCategory_iff.mp member).2
  case once =>
    have distinct : (registry.byCategory.entries.flatMap (·.2)).Nodup := by
      refine List.nodup_flatMap.mpr ⟨fun one isSection => ?_, ?_⟩
      · rw [(mem_byCategory_iff.mp isSection).1]
        exact nodup_of_increasing (ordered one.1)
      · refine registry.byCategory.increasing.imp_of_mem ?_
        intro one other isOne isOther below command (member : command ∈ one.2)
          (otherMember : command ∈ other.2)
        rw [(mem_byCategory_iff.mp isOne).1, mem_ofCategory_iff] at member
        rw [(mem_byCategory_iff.mp isOther).1, mem_ofCategory_iff] at otherMember
        exact String.lt_irrefl _ (member.2.symm.trans otherMember.2 ▸ below)
    refine (List.perm_ext_iff_of_nodup distinct (nodup_of_increasing sound.pairwise_all)).mpr ?_
    intro command
    rw [List.mem_flatMap]
    constructor
    · rintro ⟨one, isSection, member⟩
      rw [(mem_byCategory_iff.mp isSection).1] at member
      exact (mem_ofCategory_iff.mp member).1
    · intro registered
      have member := mem_ofCategory_iff.mpr ⟨registered, rfl⟩
      exact ⟨(command.categoryName, _),
        mem_byCategory_iff.mpr ⟨rfl, List.ne_nil_of_mem member⟩, member⟩

/-! ### The listing -/

/-- The text of commands arranged under headings, given the entry of each command. -/
def listingText (sections : List (String × List (Command ε))) (entry : Command ε → String) : String :=
  "Available commands:\n"
    ++ String.join (sections.map fun one =>
      "\n" ++ one.1 ++ ":\n" ++ String.join (one.2.map entry))
    ++ "\nType 'help <command>' for details on a command.\n"

/-- A text lists the commands of a registry: they are arranged under the headings of their
categories, and each enters in its own way, with room for the widest label. -/
def ListedAs [TextWidth] (registry : Registry ε) (text : String) : Prop :=
  ∃ widest sections entry, registry.WidestLabel widest ∧ registry.Arranges sections ∧
    (∀ command ∈ registry.all, command.EntersAs widest (entry command)) ∧
    text = listingText sections entry

theorem Sound.listedAs_listing [TextWidth] (sound : registry.Sound) :
    registry.ListedAs registry.listing := by
  obtain ⟨widest, isWidest, column⟩ := sound.exists_widestLabel
  refine ⟨widest, registry.byCategory.entries, fun command =>
    command.listingLine (widest + 2) ((registry.labels.get? command.name).getD ""), isWidest,
    sound.arranges_byCategory, fun command registered => ?_, ?_⟩
  · dsimp only
    rw [sound.get?_labels_of_mem registered]
    exact .listingLine (isWidest.fits command registered)
  · rw [← column]
    rfl

theorem ListedAs.unique [TextWidth] {text other : String} (listed : registry.ListedAs text)
    (alsoListed : registry.ListedAs other) : text = other := by
  obtain ⟨widest, sections, entry, isWidest, arranges, enters, rfl⟩ := listed
  obtain ⟨otherWidest, others, otherEntry, alsoWidest, alsoArranges, alsoEnters, rfl⟩ := alsoListed
  obtain rfl := arranges.unique alsoArranges
  have sameEntry : ∀ one ∈ sections, one.2.map entry = one.2.map otherEntry := by
    intro one isSection
    refine List.map_congr_left fun command member => ?_
    have registered := ((arranges.mem_iff isSection).mp member).1
    obtain rfl := isWidest.unique alsoWidest (List.ne_nil_of_mem registered)
    exact (enters command registered).unique (alsoEnters command registered)
  unfold listingText
  rw [List.map_congr_left fun one isSection => by rw [sameEntry one isSection]]

/-- Help about all commands is the one text that lists each of them once under the heading of its
category, headings and names in the order of bytes, with the descriptions in one column at least two
cells behind every label. -/
theorem Reachable.lists_commands_once [TextWidth] (reachable : registry.Reachable) (text : String) :
    registry.help? none = some text ↔ registry.ListedAs text := by
  have listed := reachable.sound.listedAs_listing
  constructor
  · rintro ⟨⟩
    exact listed
  · intro alsoListed
    exact congrArg some (listed.unique alsoListed)

attribute [local instance] Text.terminalWidth

/-- A command with an alias that is wider than it is long. -/
def putBack : Command Action :=
  { name := "undo", aliases := ["戻"], category := some "history", executor := .undo
    description := "Undo the last change" }

/-- Commands of two categories, one of them without a description. -/
def shelf : Registry Action := empty.changeAll
  [.register { name := "zoom", aliases := ["zz"], description := "Center", executor := .center },
    .register { name := "redo", category := some "history", executor := .redo }, .register putBack,
    .register { name := "help", description := "Show help", executor := .help }]

theorem shelf_lists_commands_once :
    shelf.Reachable ∧ shelf.ListedAs ("Available commands:\n"
      ++ "\ngeneral:\n  help       Show help\n  zoom (zz)  Center\n"
      ++ "\nhistory:\n  redo\n  undo (戻)  Undo the last change\n"
      ++ "\nType 'help <command>' for details on a command.\n") := by
  have reachable : shelf.Reachable := ⟨_, rfl⟩
  exact ⟨reachable, (reachable.lists_commands_once _).mp (by decide +kernel)⟩

end Registry

end MindMap
