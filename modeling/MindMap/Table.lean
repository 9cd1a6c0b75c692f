/-!
# Tables keyed by text

A finite map from texts to values, kept as its entries in increasing order of key. Texts are ordered
by code point, which is also the order of their UTF-8 bytes. Because the order is part of the type, a
table is determined by what can be looked up in it: `Table.ext_get?`.
-/

namespace MindMap

universe u v

/-- Entries with strictly increasing keys. -/
structure Table (α : Type u) where
  entries : List (String × α)
  increasing : entries.Pairwise (·.1 < ·.1)

namespace Table

variable {α : Type u} {β : Type v}

/-- The table without entries. -/
def empty : Table α := ⟨[], .nil⟩

instance : Inhabited (Table α) := ⟨empty⟩
instance : EmptyCollection (Table α) := ⟨empty⟩

/-- Look a key up among entries. -/
def getIn (key : String) : List (String × α) → Option α
  | [] => none
  | (k, value) :: rest => if k = key then some value else getIn key rest

/-- The value under a key. -/
def get? (table : Table α) (key : String) : Option α := getIn key table.entries

/-- Whether a key has a value. -/
def contains (table : Table α) (key : String) : Bool := (table.get? key).isSome

/-- The keys, in increasing order. -/
def keys (table : Table α) : List String := table.entries.map (·.1)

/-- The values, in increasing order of key. -/
def values (table : Table α) : List α := table.entries.map (·.2)

/-- The number of entries. -/
def size (table : Table α) : Nat := table.entries.length

/-- Whether there is no entry. -/
def isEmpty (table : Table α) : Bool := table.entries.isEmpty

/-- The first entry whose key comes after a text. -/
def after? (table : Table α) (key : String) : Option (String × α) :=
  table.entries.find? fun entry => key < entry.1

/-- Put a value under a key among ordered entries, replacing the one that is there. -/
def insertIn (key : String) (value : α) : List (String × α) → List (String × α)
  | [] => [(key, value)]
  | (k, old) :: rest =>
    if key < k then (key, value) :: (k, old) :: rest
    else if k = key then (key, value) :: rest
    else (k, old) :: insertIn key value rest

theorem mem_insertIn {key : String} {value : α} {entries : List (String × α)} {entry : String × α}
    (mem : entry ∈ insertIn key value entries) : entry = (key, value) ∨ entry ∈ entries := by
  induction entries with
  | nil => simpa [insertIn] using mem
  | cons head rest inductionHypothesis =>
    obtain ⟨k, old⟩ := head
    unfold insertIn at mem
    split at mem
    · simpa using mem
    · split at mem
      · rcases List.mem_cons.mp mem with rfl | mem
        · exact .inl rfl
        · exact .inr (List.mem_cons_of_mem _ mem)
      · rcases List.mem_cons.mp mem with rfl | mem
        · exact .inr (List.mem_cons_self ..)
        · exact (inductionHypothesis mem).imp id (List.mem_cons_of_mem _)

theorem pairwise_insertIn {key : String} {value : α} {entries : List (String × α)}
    (increasing : entries.Pairwise (·.1 < ·.1)) :
    (insertIn key value entries).Pairwise (·.1 < ·.1) := by
  induction entries with
  | nil => simp [insertIn]
  | cons head rest inductionHypothesis =>
    obtain ⟨k, old⟩ := head
    obtain ⟨first, later⟩ := List.pairwise_cons.mp increasing
    unfold insertIn
    split
    · next below =>
      refine List.pairwise_cons.mpr ⟨fun entry mem => ?_, increasing⟩
      rcases List.mem_cons.mp mem with rfl | mem
      · exact below
      · exact String.lt_trans below (first entry mem)
    · split
      · next same => subst same; exact List.pairwise_cons.mpr ⟨first, later⟩
      · next notBelow different =>
        refine List.pairwise_cons.mpr ⟨fun entry mem => ?_, inductionHypothesis later⟩
        rcases mem_insertIn mem with rfl | mem
        · exact Std.lt_of_le_of_ne (String.not_lt.mp notBelow) different
        · exact first entry mem

/-- Put a value under a key, replacing the one that is there. -/
def insert (table : Table α) (key : String) (value : α) : Table α :=
  ⟨insertIn key value table.entries, pairwise_insertIn table.increasing⟩

/-- Remove a key and its value, if it has one. -/
def erase (table : Table α) (key : String) : Table α :=
  ⟨table.entries.filter (·.1 ≠ key), table.increasing.filter _⟩

/-- A table built by inserting pairs one after another. -/
def ofList (pairs : List (String × α)) : Table α :=
  pairs.foldl (fun table (key, value) => table.insert key value) empty

@[simp] theorem get?_empty (key : String) : (empty : Table α).get? key = none := rfl

theorem getIn_insertIn (key query : String) (value : α) (entries : List (String × α)) :
    getIn query (insertIn key value entries) =
      if query = key then some value else getIn query entries := by
  induction entries with
  | nil => simp [insertIn, getIn, eq_comm]
  | cons head rest inductionHypothesis =>
    obtain ⟨k, old⟩ := head
    unfold insertIn
    split
    · simp [getIn, eq_comm]
    · split
      · next same => subst same; by_cases h : query = k <;> simp [getIn, h, eq_comm]
      · next different =>
        by_cases same : query = key
        · subst same; simp [getIn, inductionHypothesis, different]
        · simp [getIn, inductionHypothesis, same]

/-- Looking up after an insertion finds the new value under its key and the old ones elsewhere. -/
theorem get?_insert (table : Table α) (key query : String) (value : α) :
    (table.insert key value).get? query = if query = key then some value else table.get? query :=
  getIn_insertIn key query value table.entries

theorem getIn_filter (key query : String) (entries : List (String × α)) :
    getIn query (entries.filter (·.1 ≠ key)) =
      if query = key then none else getIn query entries := by
  induction entries with
  | nil => simp [getIn]
  | cons head rest inductionHypothesis =>
    obtain ⟨k, old⟩ := head
    simp only [List.filter_cons]
    split <;> rename_i kept <;> by_cases same : query = key <;> grind [getIn]

/-- Looking up after a removal finds nothing under the removed key and the old values elsewhere. -/
theorem get?_erase (table : Table α) (key query : String) :
    (table.erase key).get? query = if query = key then none else table.get? query :=
  getIn_filter key query table.entries

theorem getIn_eq_none_of_lt {key : String} {entries : List (String × α)}
    (above : ∀ entry ∈ entries, key < entry.1) : getIn key entries = none := by
  induction entries with
  | nil => rfl
  | cons head rest inductionHypothesis =>
    have different : ¬ head.1 = key := fun same =>
      String.lt_irrefl _ (same ▸ above head (List.mem_cons_self ..))
    rw [getIn, if_neg different]
    exact inductionHypothesis fun entry mem => above entry (List.mem_cons_of_mem _ mem)

theorem mem_of_getIn {key : String} {value : α} {entries : List (String × α)}
    (found : getIn key entries = some value) : (key, value) ∈ entries := by
  induction entries with
  | nil => cases found
  | cons head rest inductionHypothesis =>
    obtain ⟨k, old⟩ := head
    unfold getIn at found
    split at found
    · next same =>
      cases found
      exact same ▸ List.mem_cons_self ..
    · exact List.mem_cons_of_mem _ (inductionHypothesis found)

theorem getIn_of_mem {entry : String × α} {entries : List (String × α)}
    (increasing : entries.Pairwise (·.1 < ·.1)) (mem : entry ∈ entries) :
    getIn entry.1 entries = some entry.2 := by
  induction entries with
  | nil => cases mem
  | cons head rest inductionHypothesis =>
    obtain ⟨first, later⟩ := List.pairwise_cons.mp increasing
    rcases List.mem_cons.mp mem with rfl | mem
    · simp [getIn]
    · have different : head.1 ≠ entry.1 := fun same => String.lt_irrefl _ (same ▸ first entry mem)
      rw [getIn, if_neg different]
      exact inductionHypothesis later mem

/-- A key has a value exactly if both make an entry. -/
theorem get?_eq_some_iff {table : Table α} {key : String} {value : α} :
    table.get? key = some value ↔ (key, value) ∈ table.entries :=
  ⟨mem_of_getIn, getIn_of_mem table.increasing⟩

theorem mem_keys_iff {table : Table α} {key : String} :
    key ∈ table.keys ↔ (table.get? key).isSome = true := by
  constructor
  · intro member
    obtain ⟨entry, isEntry, rfl⟩ := List.mem_map.mp member
    exact Option.isSome_iff_exists.mpr ⟨entry.2, get?_eq_some_iff.mpr isEntry⟩
  · intro present
    obtain ⟨value, found⟩ := Option.isSome_iff_exists.mp present
    exact List.mem_map.mpr ⟨(key, value), get?_eq_some_iff.mp found, rfl⟩

theorem nodup_keys (table : Table α) : table.keys.Nodup := by
  refine List.pairwise_map.mpr (table.increasing.imp fun below same => ?_)
  exact String.lt_irrefl _ (same ▸ below)

/-- Inserting what entries with distinct keys map to gives every key what its entry maps to. -/
theorem get?_foldl_insert {entries : List (String × α)}
    (increasing : entries.Pairwise (·.1 < ·.1)) (image : α → β) (table : Table β)
    (key : String) :
    (entries.foldl (fun table entry => table.insert entry.1 (image entry.2)) table).get? key =
      ((getIn key entries).map image).or (table.get? key) := by
  induction entries generalizing table with
  | nil => rfl
  | cons entry rest inductionHypothesis =>
    obtain ⟨first, later⟩ := List.pairwise_cons.mp increasing
    rw [List.foldl_cons, inductionHypothesis later, get?_insert, getIn]
    by_cases same : entry.1 = key
    · subst same
      simp [getIn_eq_none_of_lt first]
    · simp [same, Ne.symm same]

theorem getIn_ext {left right : List (String × α)}
    (increasingLeft : left.Pairwise (·.1 < ·.1)) (increasingRight : right.Pairwise (·.1 < ·.1))
    (same : ∀ key, getIn key left = getIn key right) : left = right := by
  induction left generalizing right with
  | nil =>
    cases right with
    | nil => rfl
    | cons head rest => have := same head.1; simp [getIn] at this
  | cons first rest inductionHypothesis =>
    cases right with
    | nil => have := same first.1; simp [getIn] at this
    | cons second others =>
      obtain ⟨aboveFirst, laterLeft⟩ := List.pairwise_cons.mp increasingLeft
      obtain ⟨aboveSecond, laterRight⟩ := List.pairwise_cons.mp increasingRight
      have sameKey : first.1 = second.1 := by
        rcases Std.lt_trichotomy first.1 second.1 with below | equal | below
        · have found := same first.1
          rw [getIn, if_pos rfl, getIn, if_neg (fun e => String.lt_irrefl _ (e ▸ below)),
            getIn_eq_none_of_lt fun entry mem => String.lt_trans below (aboveSecond entry mem)] at found
          cases found
        · exact equal
        · have found := same second.1
          rw [getIn, if_neg (fun e => String.lt_irrefl _ (e ▸ below)),
            getIn_eq_none_of_lt fun entry mem => String.lt_trans below (aboveFirst entry mem),
            getIn, if_pos rfl] at found
          cases found
      have sameValue : first.2 = second.2 := by
        have found := same first.1
        rw [getIn, if_pos rfl, getIn, if_pos sameKey.symm] at found
        exact Option.some.inj found
      have sameRest : rest = others := inductionHypothesis laterLeft laterRight fun key => by
        have found := same key
        rw [getIn, getIn, ← sameKey] at found
        by_cases here : first.1 = key
        · rw [getIn_eq_none_of_lt fun entry mem => here ▸ aboveFirst entry mem,
            getIn_eq_none_of_lt fun entry mem => here ▸ sameKey ▸ aboveSecond entry mem]
        · simpa [here] using found
      rw [sameRest, Prod.ext sameKey sameValue]

/-- Two tables in which every look-up agrees are equal. -/
theorem ext_get? {left right : Table α} (same : ∀ key, left.get? key = right.get? key) :
    left = right := by
  obtain ⟨entriesLeft, increasingLeft⟩ := left
  obtain ⟨entriesRight, increasingRight⟩ := right
  obtain rfl : entriesLeft = entriesRight := getIn_ext increasingLeft increasingRight same
  rfl

end Table

end MindMap
