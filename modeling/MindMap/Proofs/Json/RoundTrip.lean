import MindMap.Json.Library
import MindMap.Proofs.Decimal.RoundTrip
import MindMap.Proofs.Json.Spelling

/-!
# Values round-trip through JSON texts

A value whose numbers and texts are spelled as the writer spells them is read back from what is
written for it, with or without line breaks. The reader works on a bounded number of steps;
`steps` counts those that a value takes, and no value takes more of them than it has characters.

Finite numbers are spelled so that they are read back, too, and so are small whole numbers and texts. So the
library of the program keeps what libraries are relied on for: `library_readsBack`.

Other spellings of the same value, and values whose spellings the reader would refuse, are not
considered here.
-/

namespace MindMap.Json

open Decimal

/-- All numbers, texts and keys of a value are spelled. -/
inductive WellSpelled : Json → Prop where
  | null : WellSpelled .null
  | bool (b : Bool) : WellSpelled (.bool b)
  | number {number : Numeral} {spelling : String} (spells : Spells number spelling.toList) :
      WellSpelled (.number spelling)
  | string {text : List Char} {spelling : String} (spells : spelling.toList = escape text) :
      WellSpelled (.string spelling)
  | array {items : List Json} (spelled : ∀ item ∈ items, WellSpelled item) :
      WellSpelled (.array items)
  | object {fields : List (String × Json)}
      (keys : ∀ field ∈ fields, ∃ key : List Char, field.1.toList = escape key)
      (values : ∀ field ∈ fields, WellSpelled field.2) :
      WellSpelled (.object fields)

/-! ### Steps -/

mutual

/-- The steps that reading a value takes at most. -/
def steps : Json → Nat
  | .array items => 1 + stepsOfItems items
  | .object fields => 1 + stepsOfFields fields
  | _ => 1

/-- The steps that reading the items of an array takes at most. -/
def stepsOfItems : List Json → Nat
  | [] => 0
  | item :: items => 1 + steps item + stepsOfItems items

/-- The steps that reading the fields of an object takes at most. -/
def stepsOfFields : List (String × Json) → Nat
  | [] => 0
  | (_, value) :: fields => 1 + steps value + stepsOfFields fields

end

mutual

/-- A value has a character for each of its steps. -/
theorem steps_le_length (depth : Option Nat) (rest : List Char) :
    ∀ value : Json, WellSpelled value → steps value + rest.length ≤ (emit depth value rest).length
  | .null, _ => by simp [steps, emit]; omega
  | .bool true, _ => by simp [steps, emit]; omega
  | .bool false, _ => by simp [steps, emit]; omega
  | .number _, .number spells => by
    obtain ⟨first, others, spelling, -⟩ := spells.exists_cons
    simp only [steps, emit, spelling, List.length_append, List.length_cons]
    omega
  | .string _, _ => by simp [steps, emit, emitQuoted]; omega
  | .array [], _ => by simp [steps, stepsOfItems, emit]; omega
  | .array (item :: items), .array spelled => by
    have := steps_le_length (deeper depth)
      (emitItems (deeper depth) items (lineBreak depth ++ ']' :: rest)) item (spelled _ (.head _))
    have := stepsOfItems_le_length (deeper depth) (lineBreak depth ++ ']' :: rest) items
      fun other member => spelled _ (.tail _ member)
    simp only [steps, stepsOfItems, emit, List.length_cons, List.length_append] at *
    omega
  | .object [], _ => by simp [steps, stepsOfFields, emit]; omega
  | .object ((key, value) :: fields), .object _ values => by
    have := steps_le_length (deeper depth)
      (emitFields (deeper depth) fields (lineBreak depth ++ '}' :: rest)) value
      (values _ (.head _))
    have := stepsOfFields_le_length (deeper depth) (lineBreak depth ++ '}' :: rest) fields
      fun other member => values _ (.tail _ member)
    simp only [steps, stepsOfFields, emit, emitQuoted, List.length_cons, List.length_append] at *
    omega

theorem stepsOfItems_le_length (depth : Option Nat) (rest : List Char) :
    ∀ items : List Json, (∀ item ∈ items, WellSpelled item) →
      stepsOfItems items + rest.length ≤ (emitItems depth items rest).length
  | [], _ => by simp [stepsOfItems, emitItems]
  | item :: items, spelled => by
    have := steps_le_length depth (emitItems depth items rest) item (spelled _ (.head _))
    have := stepsOfItems_le_length depth rest items fun other member => spelled _ (.tail _ member)
    simp only [stepsOfItems, emitItems, List.length_cons, List.length_append]
    omega

theorem stepsOfFields_le_length (depth : Option Nat) (rest : List Char) :
    ∀ fields : List (String × Json), (∀ field ∈ fields, WellSpelled field.2) →
      stepsOfFields fields + rest.length ≤ (emitFields depth fields rest).length
  | [], _ => by simp [stepsOfFields, emitFields]
  | (key, value) :: fields, spelled => by
    have := steps_le_length depth (emitFields depth fields rest) value (spelled _ (.head _))
    have := stepsOfFields_le_length depth rest fields fun other member => spelled _ (.tail _ member)
    simp only [stepsOfFields, emitFields, emitQuoted, List.length_cons, List.length_append]
    omega

end

/-! ### Space -/

theorem skipSpace_cons {c : Char} (notSpace : isSpace c = false) (text : List Char) :
    skipSpace (c :: text) = c :: text := by
  simp [skipSpace, notSpace]

/-- Line breaks are space. -/
@[simp] theorem skipSpace_lineBreak (depth : Option Nat) (text : List Char) :
    skipSpace (lineBreak depth ++ text) = skipSpace text := by
  cases depth with
  | none => rfl
  | some depth =>
    simp only [skipSpace, lineBreak, List.cons_append]
    rw [List.dropWhile_cons_of_pos (by decide), List.dropWhile_append_of_pos]
    intro c member
    rw [List.eq_of_mem_replicate member]
    rfl

/-- The space before a value is passed over. -/
theorem readValue?_lineBreak (fuel : Nat) (depth : Option Nat) (text : List Char) :
    readValue? fuel (lineBreak depth ++ text) = readValue? fuel text := by
  cases fuel with
  | zero => rfl
  | succ fuel => rw [readValue?, readValue?, skipSpace_lineBreak]

/-- A text begins with something that is neither space nor the end of an array. -/
def StartsValue (text : List Char) : Prop :=
  ∃ first rest, text = first :: rest ∧ isSpace first = false ∧ first ≠ ']'

/-- A number begins with no space and with no letter or bracket. -/
theorem numeric_ne {first other : Char} (numeric : first = '-' ∨ first.isDigit = true)
    (notMinus : other ≠ '-') (notDigit : other.isDigit = false) : first ≠ other := by
  rintro rfl
  rcases numeric with minus | digit
  · exact notMinus minus
  · rw [notDigit] at digit
    cases digit

theorem startsValue_number {first : Char} (numeric : first = '-' ∨ first.isDigit = true)
    (rest : List Char) : StartsValue (first :: rest) := by
  have plain : ∀ other ∈ [' ', '\n', '\t', '\r', ']'], other ≠ '-' ∧ other.isDigit = false := by
    simp only [List.mem_cons, List.not_mem_nil, or_false, forall_eq_or_imp, forall_eq]
    decide
  have different : ∀ other ∈ [' ', '\n', '\t', '\r', ']'], first ≠ other := fun other member =>
    numeric_ne numeric (plain other member).1 (plain other member).2
  simp only [List.mem_cons, List.not_mem_nil, or_false, forall_eq_or_imp, forall_eq] at different
  exact ⟨first, rest, rfl, by simp [isSpace, different], different.2.2.2.2⟩

theorem WellSpelled.startsValue {value : Json} (spelled : WellSpelled value) (depth : Option Nat)
    (rest : List Char) : StartsValue (emit depth value rest) := by
  cases spelled with
  | null => exact ⟨_, _, rfl, by decide, by decide⟩
  | bool b => cases b <;> exact ⟨_, _, rfl, by decide, by decide⟩
  | number spells =>
    obtain ⟨first, others, spelling, numeric⟩ := spells.exists_cons
    rw [emit, spelling]
    exact startsValue_number numeric _
  | string => exact ⟨_, _, rfl, by decide, by decide⟩
  | @array items => cases items <;> exact ⟨_, _, rfl, by decide, by decide⟩
  | @object fields => cases fields <;> exact ⟨_, _, rfl, by decide, by decide⟩

/-! ### Reading -/

/-- What begins like a number is read as one. -/
theorem readValue?_number {first : Char} (numeric : first = '-' ∨ first.isDigit = true)
    (fuel : Nat) (rest : List Char) :
    readValue? (fuel + 1) (first :: rest) =
      (readNumber? (first :: rest)).map fun (spelling, rest) => (.number spelling, rest) := by
  obtain ⟨_, _, same, notSpace, -⟩ := startsValue_number numeric rest
  cases same
  rw [readValue?, skipSpace_cons notSpace]
  split <;> rename_i is
  all_goals first
    | rfl
    | exact absurd (List.cons.inj is).1 (numeric_ne numeric (by decide) (by decide))

/-- The space before the items of an array is passed over. -/
theorem readItems?_lineBreak (fuel : Nat) (depth : Option Nat) (text : List Char) :
    readItems? fuel (lineBreak depth ++ text) = readItems? fuel text := by
  cases fuel with
  | zero => rfl
  | succ fuel => rw [readItems?, readItems?, readValue?_lineBreak]

/-- The space before the fields of an object is passed over. -/
theorem readFields?_lineBreak (fuel : Nat) (depth : Option Nat) (text : List Char) :
    readFields? fuel (lineBreak depth ++ text) = readFields? fuel text := by
  cases fuel with
  | zero => rfl
  | succ fuel => rw [readFields?, readFields?, skipSpace_lineBreak]

/-- An array that begins with a value has items. -/
theorem readValue?_array (fuel : Nat) (depth : Option Nat) {text : List Char}
    (starts : StartsValue text) :
    readValue? (fuel + 1) ('[' :: (lineBreak depth ++ text)) =
      (readItems? fuel text).map fun (items, rest) => (.array items, rest) := by
  obtain ⟨first, others, rfl, notSpace, notEnd⟩ := starts
  rw [readValue?, skipSpace_cons (by decide)]
  simp only [skipSpace_lineBreak, skipSpace_cons notSpace]
  split
  · next is => exact absurd (List.cons.inj is).1 notEnd
  · rfl

/-- An object that begins with a quote has fields. -/
theorem readValue?_object (fuel : Nat) (depth : Option Nat) (text : List Char) :
    readValue? (fuel + 1) ('{' :: (lineBreak depth ++ '"' :: text)) =
      (readFields? fuel ('"' :: text)).map fun (fields, rest) => (.object fields, rest) := by
  rw [readValue?, skipSpace_cons (by decide)]
  simp only [skipSpace_lineBreak, skipSpace_cons (show isSpace '"' = false by decide)]
  rfl

/-- A colon is written alike at every depth. -/
theorem colon_deeper (depth : Option Nat) : colon (deeper depth) = colon depth := by
  cases depth <;> rfl

/-- The space after a colon is passed over. -/
theorem readValue?_colon (fuel : Nat) (depth : Option Nat) (text : List Char) :
    ∃ rest, skipSpace (colon depth ++ text) = ':' :: rest ∧
      readValue? fuel rest = readValue? fuel text := by
  cases depth with
  | none => exact ⟨text, rfl, rfl⟩
  | some depth =>
    refine ⟨' ' :: text, rfl, ?_⟩
    cases fuel with
    | zero => rfl
    | succ fuel => rw [readValue?, readValue?]; rfl

/-- A spelled text is found again up to its closing quote. -/
theorem readSpelling?_spelled {spelling : String} {text : List Char}
    (spells : spelling.toList = escape text) (rest : List Char) :
    readSpelling? [] (spelling.toList ++ '"' :: rest) = some (spelling, rest) := by
  rw [spells, readSpelling?_escape, List.reverse_nil, List.nil_append, ← spells,
    String.ofList_toList]

theorem endsNumber_cons {c : Char} (ends : c.isDigit = false ∧ c ≠ '.' ∧ c ≠ 'e' ∧ c ≠ 'E')
    (rest : List Char) : EndsNumber (c :: rest) := by
  rintro _ ⟨⟩
  exact ends

/-- A number ends where the bracket or brace around it closes. -/
theorem endsNumber_close (outer : Option Nat) {close : Char} (rest : List Char)
    (ends : close.isDigit = false ∧ close ≠ '.' ∧ close ≠ 'e' ∧ close ≠ 'E') :
    EndsNumber (lineBreak outer ++ close :: rest) := by
  cases outer with
  | none => exact endsNumber_cons ends rest
  | some outer => exact endsNumber_cons (by decide) _

theorem endsNumber_emitItems (depth : Option Nat) (items : List Json) {rest : List Char}
    (ends : EndsNumber rest) : EndsNumber (emitItems depth items rest) := by
  cases items with
  | nil => exact ends
  | cons => exact endsNumber_cons (by decide) _

theorem endsNumber_emitFields (depth : Option Nat) (fields : List (String × Json))
    {rest : List Char} (ends : EndsNumber rest) : EndsNumber (emitFields depth fields rest) := by
  cases fields with
  | nil => exact ends
  | cons => exact endsNumber_cons (by decide) _

mutual

/-- A value is read back before everything that cannot continue it. -/
theorem readValue?_emit :
    ∀ value : Json, WellSpelled value → ∀ {fuel : Nat} (depth : Option Nat) {rest : List Char},
      steps value ≤ fuel → EndsNumber rest →
        readValue? fuel (emit depth value rest) = some (value, rest)
  | .null, _, fuel + 1, _, _, _, _ => rfl
  | .bool true, _, fuel + 1, _, _, _, _ => rfl
  | .bool false, _, fuel + 1, _, _, _, _ => rfl
  | .number spelling, .number spells, fuel + 1, _, rest, _, ends => by
    have read := readNumber?_append spells ends
    obtain ⟨first, others, is, numeric⟩ := spells.exists_cons
    rw [emit, is, List.cons_append, readValue?_number numeric, ← List.cons_append, ← is, read]
    simp
  | .string spelling, .string spells, fuel + 1, _, rest, _, _ => by
    have read := readSpelling?_spelled spells rest
    rw [emit, emitQuoted, readValue?, skipSpace_cons (by decide)]
    simp [read]
  | .array [], _, fuel + 1, _, _, _, _ => rfl
  | .array (item :: items), .array spelled, fuel + 1, depth, rest, enough, _ => by
    have starts := (spelled item (.head _)).startsValue (deeper depth)
      (emitItems (deeper depth) items (lineBreak depth ++ ']' :: rest))
    have enough : stepsOfItems (item :: items) ≤ fuel := by
      simp only [steps] at enough
      omega
    have read := readItems?_emit (item :: items) (by simp) spelled (deeper depth) depth rest enough
    simp only [emitItems, List.tail_cons, readItems?_lineBreak] at read
    rw [emit, readValue?_array fuel _ starts, read]
    rfl
  | .object [], _, fuel + 1, _, _, _, _ => rfl
  | .object ((key, value) :: fields), .object keys values, fuel + 1, depth, rest, enough, _ => by
    have enough : stepsOfFields ((key, value) :: fields) ≤ fuel := by
      simp only [steps] at enough
      omega
    have read := readFields?_emit ((key, value) :: fields) (by simp) keys values (deeper depth)
      depth rest enough
    simp only [emitFields, emitQuoted, List.tail_cons, readFields?_lineBreak, colon_deeper] at read
    rw [emit, emitQuoted, readValue?_object, read]
    rfl
  | value, _, 0, _, _, enough, _ => by cases value <;> simp [steps] at enough

/-- The items of an array are read back behind the mark in front of them. -/
theorem readItems?_emit :
    ∀ items : List Json, items ≠ [] → (∀ item ∈ items, WellSpelled item) →
      ∀ {fuel : Nat} (depth outer : Option Nat) (rest : List Char), stepsOfItems items ≤ fuel →
        readItems? fuel (emitItems depth items (lineBreak outer ++ ']' :: rest)).tail =
          some (items, rest)
  | [], nonempty, _, _, _, _, _, _ => absurd rfl nonempty
  | item :: items, _, spelled, 0, _, _, _, enough => by
    simp only [stepsOfItems] at enough
    omega
  | item :: items, _, spelled, fuel + 1, depth, outer, rest, enough => by
    simp only [stepsOfItems] at enough
    have closes : EndsNumber (lineBreak outer ++ ']' :: rest) :=
      endsNumber_close outer rest (by decide)
    have ends := endsNumber_emitItems depth items closes
    have enoughItem : steps item ≤ fuel := by omega
    have enoughRest : stepsOfItems items ≤ fuel := by omega
    have readItem := readValue?_emit item (spelled _ (.head _)) depth enoughItem ends
    simp only [emitItems, List.tail_cons]
    rw [readItems?, readValue?_lineBreak, readItem]
    match items, spelled, enoughRest with
    | [], _, _ =>
      simp only [emitItems, skipSpace_lineBreak,
        skipSpace_cons (show isSpace ']' = false by decide)]
    | next :: items, spelled, enoughRest =>
      have readRest := readItems?_emit (next :: items) (by simp)
        (fun other member => spelled _ (.tail _ member)) depth outer rest enoughRest
      simp only [emitItems, List.tail_cons] at readRest
      simp only [emitItems, skipSpace_cons (show isSpace ',' = false by decide), readRest]
      rfl

/-- The fields of an object are read back behind the mark in front of them. -/
theorem readFields?_emit :
    ∀ fields : List (String × Json), fields ≠ [] →
      (∀ field ∈ fields, ∃ key : List Char, field.1.toList = escape key) →
      (∀ field ∈ fields, WellSpelled field.2) →
      ∀ {fuel : Nat} (depth outer : Option Nat) (rest : List Char), stepsOfFields fields ≤ fuel →
        readFields? fuel (emitFields depth fields (lineBreak outer ++ '}' :: rest)).tail =
          some (fields, rest)
  | [], nonempty, _, _, _, _, _, _, _ => absurd rfl nonempty
  | (key, value) :: fields, _, keys, values, 0, _, _, _, enough => by
    simp only [stepsOfFields] at enough
    omega
  | (key, value) :: fields, _, keys, values, fuel + 1, depth, outer, rest, enough => by
    simp only [stepsOfFields] at enough
    have closes : EndsNumber (lineBreak outer ++ '}' :: rest) :=
      endsNumber_close outer rest (by decide)
    have ends := endsNumber_emitFields depth fields closes
    have enoughValue : steps value ≤ fuel := by omega
    have enoughRest : stepsOfFields fields ≤ fuel := by omega
    have readValue := readValue?_emit value (values _ (.head _)) depth enoughValue ends
    obtain ⟨text, spells⟩ := keys _ (.head _)
    have readKey := readSpelling?_spelled spells
    obtain ⟨behind, colon, same⟩ := readValue?_colon fuel depth
      (emit depth value (emitFields depth fields (lineBreak outer ++ '}' :: rest)))
    simp only [emitFields, List.tail_cons]
    rw [readFields?_lineBreak, emitQuoted, readFields?, skipSpace_cons (by decide)]
    simp only [readKey, colon, same, readValue]
    match fields, keys, values, enoughRest with
    | [], _, _, _ =>
      simp only [emitFields, skipSpace_lineBreak,
        skipSpace_cons (show isSpace '}' = false by decide)]
    | (nextKey, next) :: fields, keys, values, enoughRest =>
      have readRest := readFields?_emit ((nextKey, next) :: fields) (by simp)
        (fun other member => keys _ (.tail _ member))
        (fun other member => values _ (.tail _ member)) depth outer rest enoughRest
      simp only [emitFields, List.tail_cons] at readRest
      simp only [emitFields, skipSpace_cons (show isSpace ',' = false by decide), readRest]
      rfl

end

/-- A text that is written for a value, compact or over lines, is read as that value. -/
theorem parse?_emit {value : Json} (spelled : WellSpelled value) (depth : Option Nat) :
    parse? (.ofList (emit depth value [])) = some value := by
  have short := steps_le_length depth [] value spelled
  have enough : steps value ≤ 2 * (emit depth value []).length + 2 := by
    simp only [List.length_nil] at short
    omega
  have read := readValue?_emit value spelled depth enough (show EndsNumber [] by simp [EndsNumber])
  simp [parse?, read, skipSpace]

theorem parse?_compact {value : Json} (spelled : WellSpelled value) :
    parse? value.compact = some value := parse?_emit spelled none

theorem parse?_pretty {value : Json} (spelled : WellSpelled value) :
    parse? value.pretty = some value := parse?_emit spelled (some 0)

/-! ### The library of the program -/

theorem toList_toString (n : Nat) : (toString n).toList = digitChars n := Nat.toList_repr

theorem numberOf?_write {x : Float} (finite : x.isFinite = true) :
    numberOf? (write .stored x) = some x := by
  rw [numberOf?, read?_write .stored finite, Option.filter_some_pos finite]

/-- A small whole number is read from its digits. -/
theorem byteOf?_toString (n : UInt8) : byteOf? (toString n.toNat) = some n := by
  have digits : (digitChars n.toNat).all Char.isDigit = true :=
    List.all_eq_true.2 (AreDigits.digitChars n.toNat)
  have small := n.toNat_lt
  simp only [byteOf?, toList_toString, digits, valueOf_digitChars, Bool.true_and, decide_eq_true_eq]
  rw [if_pos small, UInt8.ofNat_toNat]

theorem textOf?_escape (text : String) : textOf? (.ofList (escape text.toList)) = some text := by
  simp [textOf?, unescape?_escape]

attribute [local instance] library

theorem toList_spellText (text : String) :
    (JsonLibrary.spellText text).toList = escape text.toList := String.toList_ofList

/-- What the library spells is spelled throughout. -/
theorem WellSpelled.of_spelled {value : Json} (spelled : value.Spelled) : value.WellSpelled := by
  induction spelled with
  | null => exact .null
  | bool b => exact .bool b
  | number finite =>
    obtain ⟨number, spells, -⟩ := spells_write .stored finite
    exact .number spells
  | byte n =>
    have spells := spells_digitChars n.toNat
    rw [← toList_toString] at spells
    exact .number spells
  | text text => exact .string (toList_spellText text)
  | array _ inductionHypothesis => exact .array inductionHypothesis
  | object _ inductionHypothesis =>
    refine .object ?_ ?_
    · simp only [List.mem_map]
      rintro _ ⟨⟨key, value⟩, _, rfl⟩
      exact ⟨key.toList, toList_spellText key⟩
    · simp only [List.mem_map]
      rintro _ ⟨⟨key, value⟩, member, rfl⟩
      exact inductionHypothesis (key, value) member

/-- The library of the program reads back what it writes. -/
theorem library_readsBack : JsonLibrary.ReadsBack where
  number := numberOf?_write
  byte := byteOf?_toString
  text := textOf?_escape
  value layout _ spelled _ := by
    cases layout with
    | compact => exact parse?_compact (.of_spelled spelled)
    | pretty => exact parse?_pretty (.of_spelled spelled)

end MindMap.Json
