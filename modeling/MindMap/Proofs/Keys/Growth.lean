import MindMap.Keys.Keymap
import MindMap.Proofs.Text.ByteOrder

/-!
# Keys that can grow into a binding

In the order of keys, the texts that begin with a text come directly behind it: a text between it
and one of them begins with it as well. So whether more keys can make a binding is told by the one
binding that comes next. Bindings are made one after another, and what is bound is what was bound
at some time: `bindings_tell_growth`.
-/

namespace MindMap

/-- What lies between a list and one that begins with it begins with it too. -/
theorem prefix_of_between {start between text : List Char} (begins : start <+: text)
    (behind : start < between) (upTo : ¬text < between) : start <+: between := by
  induction start generalizing between text with
  | nil => exact List.nil_prefix
  | cons first start inductionHypothesis =>
    obtain ⟨more, rfl⟩ := begins
    cases between with
    | nil => exact absurd behind (List.not_lt_nil _)
    | cons other between =>
      rw [List.cons_lt_cons_iff] at behind
      rw [List.cons_append, List.cons_lt_cons_iff, not_or] at upTo
      obtain ⟨rfl, restBehind⟩ := behind.resolve_left upTo.1
      refine (List.prefix_cons_inj first).mpr ?_
      exact inductionHypothesis (List.prefix_append start more) restBehind
        fun below => upTo.2 ⟨rfl, below⟩

/-- A list comes before the longer ones that begin with it. -/
theorem lt_of_begins {start text : List Char} (begins : start <+: text) (differs : text ≠ start) :
    start < text := by
  have shorter : start.length < text.length := Nat.lt_of_le_of_ne begins.length_le fun same =>
    differs (begins.eq_of_length same).symm
  exact List.lt_iff_exists.mpr (.inl ⟨List.prefix_iff_eq_take.mp begins, shorter⟩)

/-- No key lies between a text and the key that comes next after it. -/
theorem Table.not_lt_after? {α : Type} {table : Table α} {key : String} {next entry : String × α}
    (comesNext : table.after? key = some next) (member : entry ∈ table.entries)
    (behind : key < entry.1) : ¬entry.1 < next.1 := by
  obtain ⟨-, before, rest, split, skipped⟩ := List.find?_eq_some_iff_append.mp comesNext
  have increasing := table.increasing
  rw [split] at member increasing
  rcases List.mem_append.mp member with earlier | later
  · exact absurd behind (by simpa using skipped entry earlier)
  · rcases List.mem_cons.mp later with rfl | later
    · exact String.lt_irrefl _
    · have nextFirst := (List.pairwise_append.mp increasing).2.1
      have laterBehind := (List.pairwise_cons.mp nextFirst).1 entry later
      exact fun below => String.lt_irrefl _ (String.lt_trans laterBehind below)

namespace Keymap

variable {keymap : Keymap} {keys : String}

theorem beginsWith_iff {text start : String} :
    beginsWith text start = true ↔ start.toList <+: text.toList := by
  rw [beginsWith, List.isPrefixOf_iff_prefix]

/-- Some longer keys that begin with these are bound. -/
def Grows (keymap : Keymap) (keys : String) : Prop :=
  ∃ longer binding, keymap.lookup? longer = some binding ∧ longer ≠ keys ∧
    keys.toList <+: longer.toList

theorem canGrow_iff_grows : keymap.canGrow keys = true ↔ keymap.Grows keys := by
  unfold canGrow
  constructor
  · intro grows
    split at grows
    · next next binding found =>
      have behind : keys < next := by simpa using List.find?_some found
      refine ⟨next, binding, Table.get?_eq_some_iff.mpr (List.mem_of_find?_eq_some found), ?_,
        beginsWith_iff.mp grows⟩
      rintro rfl
      exact String.lt_irrefl _ behind
    · cases grows
  · rintro ⟨longer, binding, bound, differs, begins⟩
    have member := Table.get?_eq_some_iff.mp bound
    have behind : keys < longer :=
      String.lt_iff.mpr (lt_of_begins begins fun same => differs (String.toList_inj.mp same))
    cases found : keymap.bindings.after? keys with
    | none => exact absurd behind (by simpa using List.find?_eq_none.mp found _ member)
    | some next =>
      have upTo := Table.not_lt_after? found member behind
      have nextBehind : keys < next.1 := by simpa using List.find?_some found
      rw [String.lt_iff] at upTo nextBehind
      exact beginsWith_iff.mpr (prefix_of_between begins nextBehind upTo)

/-! ### Bindings made one after another -/

/-- Bind keys one after another, replacing what they were bound to. -/
def bindAll (keymap : Keymap) (bindings : List (String × Binding)) : Keymap :=
  bindings.foldl (fun reached (keys, binding) => reached.bind keys binding.line binding.counted)
    keymap

/-- Keys are bound to something. -/
def Binds (keymap : Keymap) (keys : String) : Prop := ∃ binding, keymap.lookup? keys = some binding

theorem binds_bind_iff {line other : String} {counted : Bool} :
    (keymap.bind keys line counted).Binds other ↔ other = keys ∨ keymap.Binds other := by
  have found : (keymap.bind keys line counted).lookup? other =
      if other = keys then some ⟨line, counted⟩ else keymap.lookup? other :=
    Table.get?_insert ..
  unfold Binds
  rw [found]
  by_cases same : other = keys <;> simp [same]

/-- No keys are ever unbound. -/
theorem binds_bindAll_iff {bindings : List (String × Binding)} {other : String} :
    (keymap.bindAll bindings).Binds other ↔ keymap.Binds other ∨ other ∈ bindings.map (·.1) := by
  induction bindings generalizing keymap with
  | nil => simp [bindAll]
  | cons first rest inductionHypothesis =>
    have later : (keymap.bindAll (first :: rest)).Binds other ↔
        (keymap.bind first.1 first.2.line first.2.counted).Binds other ∨
          other ∈ rest.map (·.1) := inductionHypothesis
    rw [later, binds_bind_iff, List.map_cons, List.mem_cons]
    tauto

/-- The bound keys that come directly behind a text, in the order of bytes. -/
structure ComesNext (keymap : Keymap) (keys next : String) : Prop where
  bound : keymap.Binds next
  behind : Text.bytes keys < Text.bytes next
  first : ∀ other, keymap.Binds other → Text.bytes keys < Text.bytes other →
    ¬Text.bytes other < Text.bytes next

theorem comesNext_of_after? {next : String × Binding}
    (found : keymap.bindings.after? keys = some next) : keymap.ComesNext keys next.1 := by
  constructor
  case bound => exact ⟨next.2, Table.get?_eq_some_iff.mpr (List.mem_of_find?_eq_some found)⟩
  case behind => exact Text.bytes_lt_iff.mpr (by simpa using List.find?_some found)
  case first =>
    rintro other ⟨binding, bound⟩ behind
    rw [Text.bytes_lt_iff] at behind ⊢
    exact Table.not_lt_after? found (Table.get?_eq_some_iff.mp bound) behind

/-- What asking whether keys can grow tells. -/
structure TellsGrowth (keymap : Keymap) (keys : String) : Prop where
  /-- It tells whether other keys that begin with these are bound. -/
  grows : keymap.canGrow keys = true ↔
    ∃ longer, keymap.Binds longer ∧ longer ≠ keys ∧ Text.bytes keys <+: Text.bytes longer
  /-- The keys that come next tell as much. -/
  next : keymap.canGrow keys = true ↔
    ∃ next, keymap.ComesNext keys next ∧ Text.bytes keys <+: Text.bytes next

/-- Whatever is bound to begin with and in the course of time, the keys bound are all of these, and
whether a text can grow into any of them is told by the one that comes next. -/
theorem bindings_tell_growth (keymap : Keymap) (bindings : List (String × Binding)) :
    (∀ keys, (keymap.bindAll bindings).Binds keys ↔
      keymap.Binds keys ∨ keys ∈ bindings.map (·.1)) ∧
    ∀ keys, (keymap.bindAll bindings).TellsGrowth keys := by
  refine ⟨fun keys => binds_bindAll_iff, fun keys => ?_⟩
  generalize keymap.bindAll bindings = reached
  have grows : reached.canGrow keys = true ↔
      ∃ longer, reached.Binds longer ∧ longer ≠ keys ∧ Text.bytes keys <+: Text.bytes longer := by
    rw [canGrow_iff_grows]
    constructor
    · rintro ⟨longer, binding, bound, differs, begins⟩
      exact ⟨longer, ⟨binding, bound⟩, differs, Text.bytes_prefix_iff.mpr begins⟩
    · rintro ⟨longer, ⟨binding, bound⟩, differs, begins⟩
      exact ⟨longer, binding, bound, differs, Text.bytes_prefix_iff.mp begins⟩
  refine ⟨grows, fun told => ?_, ?_⟩
  · unfold canGrow at told
    split at told
    · next next binding found =>
      exact ⟨next, comesNext_of_after? found,
        Text.bytes_prefix_iff.mpr (beginsWith_iff.mp told)⟩
    · cases told
  · rintro ⟨next, comesNext, begins⟩
    refine grows.mpr ⟨next, comesNext.bound, ?_, begins⟩
    rintro rfl
    exact List.lt_irrefl _ comesNext.behind

end Keymap

end MindMap
