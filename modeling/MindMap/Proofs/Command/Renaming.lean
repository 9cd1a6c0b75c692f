import MindMap.Proofs.Command.Targets
import MindMap.Proofs.Outline.Visibility

/-!
# Renaming by a line

A line can carry any text to the command that renames a node, written by `quoteWord`. What arrives is
a word again, and words are read by their shape: one that reads as a truth value or a number is no
text, one that looks like a flag is no value at all, and from one with a pair of quotes around it the
pair is taken. So the line renames the node, and only that node, to the text it was written for, or
to what stands between the quotes of that text, or it is refused: `renames_by_line`.

The second case is a property of how words are read, not of how they are written, and quoting cannot
prevent it.
-/

namespace MindMap

open CommandLine

variable {ε : Type}

/-- The line that renames a node to a text. -/
def lineToRename (id text : String) : String :=
  "rename --nodeId " ++ id ++ " --text " ++ quoteWord text

/-- An id that a line can name a node by as it is, without quotes. -/
structure IsBareId (id : String) : Prop where
  plain : IsPlain id
  notEmpty : id ≠ ""
  noFlag : ¬['-', '-'] <+: id.toList
  notTrue : id ≠ "true"
  notFalse : id ≠ "false"

/-- A text as it is read once it has been written as one word. -/
inductive ReadsAs : String → String → Prop where
  | bare {text : String} (bare : ¬IsWrapped text) : ReadsAs text text
  /-- The quotes of the text itself are lost. -/
  | wrapped {text inner : String} {quote : Char} (isQuote : isQuote quote = true)
      (wrapped : text.toList = quote :: (inner.toList ++ [quote])) : ReadsAs text inner

/-! ### Words -/

namespace CommandLine

/-- A quote cannot be closed by the other kind of quote. -/
theorem stripQuote?_of_wrapped {quote other : Char} {word inner : List Char}
    (wrapped : word = quote :: (inner ++ [quote])) :
    stripQuote? other word = if quote = other then some inner else none := by
  subst wrapped
  by_cases same : quote = other <;> simp [stripQuote?, same]

theorem readsAs_stripQuotes (text : String) : ReadsAs text (stripQuotes text) := by
  by_cases isWrapped : IsWrapped text
  · obtain ⟨quote, inner, isQuote, wrapped⟩ := isWrapped
    have stripped : stripQuotes text = .ofList inner := by
      unfold stripQuotes
      rw [stripQuote?_of_wrapped wrapped, stripQuote?_of_wrapped wrapped]
      have either : quote = '"' ∨ quote = '\'' := by
        simpa [CommandLine.isQuote, or_comm] using isQuote
      rcases either with rfl | rfl <;> rfl
    rw [stripped]
    exact .wrapped isQuote (by rw [String.toList_ofList, wrapped])
  · rw [stripQuotes_of_not_isWrapped isWrapped]
    exact .bare isWrapped

end CommandLine

theorem IsBareId.flag?_eq_none {id : String} (bare : IsBareId id) : Arguments.flag? id = none :=
  Arguments.flag?_eq_none bare.noFlag

theorem IsBareId.namesNode {id : String} (bare : IsBareId id) : NamesNode id := by
  refine ⟨?_, bare.noFlag, bare.notTrue, bare.notFalse, ?_⟩
  · obtain ⟨c, rest, starts⟩ : ∃ c rest, id.toList = c :: rest :=
      List.exists_cons_of_ne_nil (by simpa using bare.notEmpty)
    have member : c ∈ id.toList := starts ▸ List.mem_cons_self
    have noBlank : Text.isBlank c = false := by
      have plain := bare.plain c member
      rw [needsQuotes_eq, Bool.or_eq_false_iff] at plain
      exact plain.1
    exact allBlank_eq_false member noBlank
  · rintro ⟨quote, inner, isQuote, wrapped⟩
    have plain := bare.plain quote (wrapped ▸ List.mem_cons_self)
    rw [needsQuotes_eq, isSpecialOutside, isQuote] at plain
    simp at plain

/-! ### The words of the line -/

/-- Words go on behind a plain one and a space. -/
theorem CommandLine.SpellsWords.behind {word : String} {others : List String} {written : List Char}
    (spells : SpellsWords others written) (plain : IsPlain word) (notEmpty : word ≠ "") :
    SpellsWords (word :: others) (word.toList ++ ' ' :: written) := by
  have space : IsGap [' '] := by decide
  simpa using SpellsWords.cons (plain.spellsWord notEmpty) space (List.cons_ne_nil _ _) spells

theorem toList_lineToRename (id text : String) : (lineToRename id text).toList =
    "rename --nodeId ".toList ++ (id.toList ++ (" --text ".toList ++ (quoteWord text).toList)) := by
  have joined : ∀ one two three four : String, (one ++ two ++ three ++ four).toList =
      one.toList ++ (two.toList ++ (three.toList ++ four.toList)) := by simp
  exact joined ..

theorem words_lineToRename {id : String} (bare : IsBareId id) (text : String) :
    words (lineToRename id text) = .ok ["rename", "--nodeId", id, "--text", text] := by
  have value : SpellsWords [text] (quoteWord text).toList := by
    have last := SpellsWords.last (spellsWord_quoteWord text) (show IsGap [] by decide)
    rwa [List.append_nil] at last
  have given := value.behind (show IsPlain "--text" by decide) (by decide)
  have named := (given.behind bare.plain bare.notEmpty).behind
    (show IsPlain "--nodeId" by decide) (by decide)
  have whole := named.behind (show IsPlain "rename" by decide) (by decide)
  have first : "rename --nodeId ".toList = "rename".toList ++ ' ' :: ("--nodeId".toList ++ [' ']) := by
    decide
  have second : " --text ".toList = ' ' :: ("--text".toList ++ [' ']) := by decide
  refine words_of_spellsWords ?_
  rw [toList_lineToRename, first, second]
  simpa only [List.append_assoc, List.cons_append, List.nil_append] using whole

/-! ### The arguments of the line -/

theorem ofWords_lineToRename {id : String} (noFlag : Arguments.flag? id = none) (text : String) :
    Arguments.ofWords ["--nodeId", id, "--text", text] =
      match Arguments.flag? text with
      | none => (Arguments.empty.insertWord "nodeId" id).insertWord "text" text
      | some name =>
        ((Arguments.empty.insertWord "nodeId" id).insert "text" (.truth true)).insert name
          (.truth true) := by
  have node : Arguments.flag? "--nodeId" = some "nodeId" := by decide
  have flag : Arguments.flag? "--text" = some "text" := by decide
  cases isFlag : Arguments.flag? text <;>
    simp [Arguments.ofWords, Arguments.readWords, node, flag, noFlag, isFlag]

namespace Stock

/-- A command that renames takes a text and a node, and nothing else. -/
theorem parameters_of_rename {command : Command Action} (stock : command ∈ commands)
    (renames : command.executor = .rename) :
    (∃ parameter ∈ command.parameters, parameter.name = "text" ∧ parameter.type = .text) ∧
    (∃ parameter ∈ command.parameters,
      parameter.name = "nodeId" ∧ parameter.type = .nodeId ∧ parameter.required = false) ∧
    ∀ parameter ∈ command.parameters, parameter.name ≠ "nodeId" →
      parameter.name = "text" ∧ parameter.type = .text := by
  revert command
  decide

/-- A stock command is found in the stock registry by each of its names. -/
theorem get?_of_mem_names {command : Command Action} {name : String} (stock : command ∈ commands)
    (isName : name ∈ command.names) : Registry.stock.get? name = some command := by
  have byName : Registry.stock.commands.get? command.name = some command :=
    Registry.get?_registerAll_of_mem (by decide) stock
  have sound := Registry.reachable_stock.sound
  exact sound.get?_eq_some_iff.mpr ⟨sound.mem_all_iff.mpr byName, isName⟩

theorem exists_rename : ∃ command ∈ commands,
    Registry.stock.get? "rename" = some command ∧ command.executor = .rename := by
  have named : ∃ command ∈ commands, "rename" ∈ command.names ∧ command.executor = .rename := by
    decide
  obtain ⟨command, stock, isName, renames⟩ := named
  exact ⟨command, stock, get?_of_mem_names stock isName, renames⟩

end Stock

/-- The line names the command and gives it two arguments. -/
theorem executeLine_lineToRename [TextWidth] {σ : Type} [Host σ] {state : σ} {id text : String}
    (bare : IsBareId id) : Registry.stock.executeLine (lineToRename id text) state =
      Registry.stock.execute
        ⟨"rename", .ofWords ["--nodeId", id, "--text", text], lineToRename id text⟩ state := by
  rw [Registry.executeLine, Invocation.ofLine, words_lineToRename bare text]
  rfl

/-- What the line gives is accepted if the text reads as a text. -/
theorem check_lineToRename {command : Command Action} {id text content : String} (line : String)
    (stock : command ∈ Stock.commands) (renames : command.executor = .rename) (bare : IsBareId id)
    (noFlag : Arguments.flag? text = none) (reads : Value.ofWord text = .text content) :
    ∃ checked, check command.parameters
        ⟨"rename", .ofWords ["--nodeId", id, "--text", text], line⟩ = .ok checked ∧
      checked.args.text? "text" = some content ∧
      ∀ context : Context ε, context.resolve checked.args "nodeId" = .ok id := by
  obtain ⟨⟨parameter, declared, isText, type⟩, takes, others⟩ :=
    Stock.parameters_of_rename stock renames
  have fromWords := Arguments.fromWords_ofWords ["--nodeId", id, "--text", text]
  have words := ofWords_lineToRename bare.flag?_eq_none text
  rw [noFlag] at words
  have node : (Arguments.ofWords ["--nodeId", id, "--text", text]).Holds "nodeId" id := by
    rw [words]
    exact (Arguments.holds_insertWord ..).insertWord (by decide) text
  have given : (Arguments.ofWords ["--nodeId", id, "--text", text]).get? "text" =
      some (.text content) := by
    rw [words]
    dsimp only
    rw [Arguments.get?_insertWord, if_pos rfl, reads]
  generalize Arguments.ofWords ["--nodeId", id, "--text", text] = args at *
  have unbroken : ∀ parameter ∈ command.parameters, parameter.violation? args = none := by
    intro parameter declared
    by_cases isTarget : parameter.name = "nodeId"
    · exact Stock.violation?_target stock takes bare.namesNode (.inr node) parameter declared isTarget
    · obtain ⟨isText, type⟩ := others parameter declared isTarget
      rw [Parameter.violation?, isText, given, type]
      rfl
  have accepted : check command.parameters ⟨"rename", args, line⟩ = .ok _ :=
    check_eq_ok_iff.mpr ⟨unbroken, rfl⟩
  refine ⟨_, accepted, ?_, fun context => ?_⟩
  · obtain ⟨-, checked⟩ := checkedArguments_of_check (Stock.distinct_parameters stock) accepted
    have kept := checked.kept parameter declared (by rw [type]; decide) (.text content)
    rw [isText] at kept
    rw [Arguments.text?, kept given]
    rfl
  · obtain ⟨kept, source, always⟩ :=
      (checkedTarget stock takes fromWords accepted).resolve_of_named node.value
    rw [node.source, stripQuotes_of_not_isWrapped bare.namesNode.bare] at source
    rw [always, Option.some.inj source]

/-- It is accepted only then. -/
theorem reads_of_check_lineToRename {command : Command Action} {id text line : String} {checked : Invocation}
    (stock : command ∈ Stock.commands) (renames : command.executor = .rename) (bare : IsBareId id)
    (accepted : check command.parameters
      ⟨"rename", .ofWords ["--nodeId", id, "--text", text], line⟩ = .ok checked) :
    Arguments.flag? text = none ∧ ∃ content, Value.ofWord text = .text content := by
  obtain ⟨⟨parameter, declared, isText, type⟩, -, -⟩ := Stock.parameters_of_rename stock renames
  have unbroken := (check_eq_ok_iff.mp accepted).1 parameter declared
  rw [Parameter.violation?, isText, type, ofWords_lineToRename bare.flag?_eq_none] at unbroken
  have read := Value.readFrom_ofWord text
  cases isFlag : Arguments.flag? text with
  | some name =>
    simp [isFlag, Arguments.get?_insert, ArgumentType.accept?] at unbroken
  | none =>
    simp only [isFlag, Arguments.get?_insertWord, if_pos] at unbroken
    refine ⟨rfl, ?_⟩
    generalize Value.ofWord text = value at read unbroken
    cases read with
    | text => exact ⟨_, rfl⟩
    | truth | integer | number => cases unbroken

/-! ### The command -/

namespace Session

variable {session : Session} {id : String}

/-- The action renames the node that the arguments mean to the text that they give. -/
theorem Consistent.run_rename (consistent : session.Consistent) {context : Context ε}
    {args : Arguments} {content : String} (given : args.text? "text" = some content)
    (resolved : context.resolve args "nodeId" = .ok id) (present : id ∈ session.document.ids) :
    ∃ message, (context.rename args).run session = .ok (.done (some message))
      (session.commit (session.document.mapItems (Forest.changeAt id (.setText content)))) := by
  obtain ⟨node, found⟩ := Forest.exists_find?_of_mem_ids present
  have text : (MonadExcept.ofExcept (Context.requiredText args) : HostM Session String).run session =
      .ok content session := by
    rw [Context.requiredText, given]
    rfl
  have hostFound : Host.findNode session id = some node := found
  have updated : (Host.updateNode id (.setText content) : HostM Session Unit).run session =
      .ok () (session.commit (session.document.mapItems (Forest.changeAt id (.setText content)))) := by
    change (Session.updateNode id (.setText content)).run session = _
    rw [run_updateNode, consistent.document_distinct.update?_eq _ present]
    rfl
  unfold Context.rename
  rw [EStateM.run_bind, text]
  dsimp only
  rw [EStateM.run_bind, Context.run_target, resolved]
  dsimp only
  rw [hostFound]
  dsimp only
  rw [EStateM.run_bind, updated]
  exact ⟨_, rfl⟩

/-- What a line that renames a node leaves behind. -/
structure Renamed (before after : Session) (id text : String) : Prop where
  /-- Nothing else has been changed in the document, neither of the node nor of any other. -/
  document : after.document = before.document.mapItems (Forest.changeAt id (.setText text))
  text : ∃ node, after.document.find? id = some node ∧ node.text = text

theorem renamed_commit (present : id ∈ session.document.ids) (text : String) :
    session.Renamed
      (session.commit (session.document.mapItems (Forest.changeAt id (.setText text)))) id text := by
  obtain ⟨node, found⟩ := Forest.exists_find?_of_mem_ids present
  obtain ⟨_, rfl⟩ := Forest.mem_nodes_of_find? found
  have changed := Forest.find?_mapItems (Forest.id_changeAt node.id (.setText text))
    session.document node.id
  rw [found] at changed
  refine ⟨rfl, _, changed, ?_⟩
  change (Forest.changeAt node.id _ node.toItem).text = text
  rw [Forest.changeAt, if_pos rfl]
  rfl

section

variable [TextWidth]

/-- Only a text that reads as a text lets the line be done. -/
theorem reads_of_done_lineToRename (bare : IsBareId id) {text : String}
    (done : (Registry.stock.executeLine (lineToRename id text) session).1.isDone = true) :
    Arguments.flag? text = none ∧ ∃ content, Value.ofWord text = .text content := by
  obtain ⟨command, stock, found, renames⟩ := Stock.exists_rename
  rw [executeLine_lineToRename bare] at done
  obtain ⟨named, checked, message, foundToo, accepted, -⟩ := Registry.run_of_done_execute done
  obtain rfl : command = named := Option.some.inj (found.symm.trans foundToo)
  exact reads_of_check_lineToRename stock renames bare accepted

/-- With such a text the line does what the command does. -/
theorem Consistent.executeLine_lineToRename (consistent : session.Consistent) (bare : IsBareId id)
    (present : id ∈ session.document.ids) {text content : String}
    (noFlag : Arguments.flag? text = none) (read : Value.ofWord text = .text content) :
    ∃ message, Registry.stock.executeLine (lineToRename id text) session = (.done message,
      session.commit (session.document.mapItems (Forest.changeAt id (.setText content)))) := by
  obtain ⟨command, stock, found, renames⟩ := Stock.exists_rename
  obtain ⟨checked, accepted, given, resolved⟩ :=
    check_lineToRename (lineToRename id text) stock renames bare noFlag read
  obtain ⟨message, run⟩ :=
    consistent.run_rename given (resolved (.now Registry.stock session)) present
  have ran : (Registry.stock.runCommand command checked.args).run session = .ok (.done (some message))
      (session.commit (session.document.mapItems (Forest.changeAt id (.setText content)))) := by
    change (command.executor.run (.now Registry.stock session) checked.args).run session = _
    rw [renames]
    exact run
  refine ⟨some message, ?_⟩
  rw [MindMap.executeLine_lineToRename bare, Registry.execute, found]
  dsimp only
  rw [accepted]
  dsimp only
  rw [ran]

/-- The line is done if its text reads as a text, and then it has renamed the node, and nothing else,
to that text. -/
theorem Reachable.renames_by_line (reachable : session.Reachable) (bare : IsBareId id)
    (present : id ∈ session.document.ids) (text : String) :
    ((Registry.stock.executeLine (lineToRename id text) session).1.isDone = true ↔
      Arguments.flag? text = none ∧ ∃ content, Value.ofWord text = .text content) ∧
    ((Registry.stock.executeLine (lineToRename id text) session).1.isDone = true →
      ∃ content, ReadsAs text content ∧
        session.Renamed (Registry.stock.executeLine (lineToRename id text) session).2 id content) := by
  have consistent := reachable.consistent
  constructor
  · refine ⟨reads_of_done_lineToRename bare, ?_⟩
    rintro ⟨noFlag, content, read⟩
    obtain ⟨message, result⟩ := consistent.executeLine_lineToRename bare present noFlag read
    rw [result]
    rfl
  · intro done
    obtain ⟨noFlag, content, read⟩ := reads_of_done_lineToRename bare done
    obtain ⟨message, result⟩ := consistent.executeLine_lineToRename bare present noFlag read
    obtain rfl : stripQuotes text = content := by
      have source := Value.readFrom_ofWord text
      rw [read] at source
      exact Option.some.inj source.text_source
    rw [result]
    exact ⟨_, readsAs_stripQuotes text, renamed_commit present _⟩

end

theorem bareId_trunk : IsBareId "trunk" := by
  constructor <;> decide

attribute [local instance] TextWidth.perCharacter

/-- A text with quotes, blanks and a backslash arrives as it is. -/
theorem trunk_renamed_by_line :
    let line := "rename --nodeId trunk --text 'it\\'s \"big\" \\\\'"
    lineToRename "trunk" "it's \"big\" \\" = line ∧
      sprouting.Renamed (Registry.stock.executeLine line sprouting).2 "trunk" "it's \"big\" \\" := by
  have renames := reachable_sprouting.renames_by_line bareId_trunk (by decide) "it's \"big\" \\"
  obtain ⟨content, readsAs, renamed⟩ := renames.2 (renames.1.mpr ⟨by decide, _, rfl⟩)
  refine ⟨rfl, ?_⟩
  cases readsAs with
  | bare => exact renamed
  | wrapped isQuote wrapped =>
    obtain rfl := (List.cons.inj wrapped).1
    exact absurd isQuote (by decide)

/-- A text in quotes arrives without them. -/
theorem quotes_of_text_lost_on_line :
    let (reply, after) := Registry.stock.executeLine (lineToRename "trunk" "'b'") sprouting
    sprouting.Reachable ∧ IsBareId "trunk" ∧ "trunk" ∈ sprouting.document.ids ∧
      reply.isDone = true ∧ (after.document.find? "trunk").map (fun node => node.text) = some "b" := by
  have noFlag : Arguments.flag? "'b'" = none := by decide
  have read : Value.ofWord "'b'" = .text "b" := rfl
  obtain ⟨message, result⟩ :=
    reachable_sprouting.consistent.executeLine_lineToRename bareId_trunk (by decide) noFlag read
  rw [result]
  exact ⟨reachable_sprouting, bareId_trunk, by decide, rfl, rfl⟩

end Session

end MindMap
