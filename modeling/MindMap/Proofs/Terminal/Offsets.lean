import MindMap.Terminal.App

/-!
# Offsets into the line being edited

The line being edited is kept as two texts with the cursor between them. It could be kept as one text
with the number of bytes before the cursor, and then every key has to find places in that text again:
where the piece before the cursor begins, or the one behind it ends, and what to cut out in between.
`ByteLine` does just that. A cut inside a character, or beyond the end, is no cut, and then no line
results.

Both ways come to the same line after every key, so no cut is ever a wrong one: `Takes.bytes`. What a
key does is said by `Takes` once, in pieces and without any places. The pieces may be those of any
segmentation: that they follow one another and that none is empty is all that is ever used.
-/

namespace MindMap

/-! ### Pieces of a text -/

theorem Text.ofList_flatten (pieces : List (List Char)) :
    String.ofList pieces.flatten = String.join (pieces.map String.ofList) := by
  rw [← String.toList_inj, String.toList_join, String.toList_ofList, List.flatMap_map]
  simp [List.flatMap_def]

namespace Segmentation

variable [Segmentation] {text piece : String} {pieces : List String}

@[simp] theorem pieces_nil : Segmentation.pieces [] = [] := by
  refine List.eq_nil_iff_forall_not_mem.mpr fun piece member => ?_
  obtain rfl := List.flatten_eq_nil_iff.mp (flatten_pieces []) piece member
  exact nil_not_mem_pieces [] member

@[simp] theorem texts_empty : texts "" = [] := by simp [texts]

/-- The pieces of a text make up the text. -/
theorem join_texts (text : String) : String.join (texts text) = text := by
  rw [texts, ← Text.ofList_flatten, flatten_pieces, String.ofList_toList]

theorem texts_eq_nil_iff : texts text = [] ↔ text = "" := by
  constructor
  · intro none
    rw [← join_texts text, none]
    rfl
  · rintro rfl
    exact texts_empty

theorem eq_join_append (isSplit : texts text = pieces ++ [piece]) :
    text = String.join pieces ++ piece := by
  rw [← join_texts text, isSplit, String.join_append]
  simp

theorem eq_append_join (isSplit : texts text = piece :: pieces) :
    text = piece ++ String.join pieces := by
  rw [← join_texts text, isSplit, String.join_cons]

theorem exists_last_piece (notEmpty : text ≠ "") : ∃ pieces piece, texts text = pieces ++ [piece] :=
  ⟨_, _, (List.dropLast_concat_getLast (mt texts_eq_nil_iff.mp notEmpty)).symm⟩

theorem exists_first_piece (notEmpty : text ≠ "") : ∃ piece pieces, texts text = piece :: pieces :=
  List.exists_cons_of_ne_nil (mt texts_eq_nil_iff.mp notEmpty)

end Segmentation

namespace EditLine

variable [Segmentation] {text piece : String} {pieces : List String}

theorem splitLast_eq (isSplit : Segmentation.texts text = pieces ++ [piece]) :
    splitLast text = (String.join pieces, piece) := by
  obtain ⟨before, last, split, rfl, single⟩ := List.map_eq_append_iff.mp isSplit
  obtain ⟨only, rfl, rfl⟩ := List.map_eq_singleton_iff.mp single
  simp [splitLast, split, Text.ofList_flatten]

theorem splitFirst_eq (isSplit : Segmentation.texts text = piece :: pieces) :
    splitFirst text = (piece, String.join pieces) := by
  obtain ⟨first, rest, split, rfl, rfl⟩ := List.map_eq_cons_iff.mp isSplit
  simp [splitFirst, split, Text.ofList_flatten]

end EditLine

/-! ### Keys -/

/-- What a key makes of the line being edited, unless it ends the edit. -/
inductive Takes [Segmentation] : EditLine → Key → EditLine → Prop where
  | char {before after : String} (c : Char) :
      Takes ⟨before, after⟩ (.char c) ⟨before.push c, after⟩
  | backspace {before after piece : String} {pieces : List String}
      (isSplit : Segmentation.texts before = pieces ++ [piece]) :
      Takes ⟨before, after⟩ .backspace ⟨String.join pieces, after⟩
  | left {before after piece : String} {pieces : List String}
      (isSplit : Segmentation.texts before = pieces ++ [piece]) :
      Takes ⟨before, after⟩ .left ⟨String.join pieces, piece ++ after⟩
  | delete {before after piece : String} {pieces : List String}
      (isSplit : Segmentation.texts after = piece :: pieces) :
      Takes ⟨before, after⟩ .delete ⟨before, String.join pieces⟩
  | right {before after piece : String} {pieces : List String}
      (isSplit : Segmentation.texts after = piece :: pieces) :
      Takes ⟨before, after⟩ .right ⟨before ++ piece, String.join pieces⟩
  | home {before after : String} : Takes ⟨before, after⟩ .home ⟨"", before ++ after⟩
  | toEnd {before after : String} : Takes ⟨before, after⟩ .toEnd ⟨before ++ after, ""⟩
  /-- There is nothing before the cursor. -/
  | atStart {after : String} {key : Key} (backward : key = .backspace ∨ key = .left) :
      Takes ⟨"", after⟩ key ⟨"", after⟩
  /-- There is nothing behind the cursor. -/
  | atEnd {before : String} {key : Key} (forward : key = .delete ∨ key = .right) :
      Takes ⟨before, ""⟩ key ⟨before, ""⟩
  | ignored {line : EditLine} {key : Key}
      (ignored : key = .tab ∨ key = .up ∨ key = .down ∨ key = .other) : Takes line key line

namespace EditLine

variable [Segmentation]

theorem takes_deleteBefore (line : EditLine) : Takes line .backspace line.deleteBefore := by
  obtain ⟨before, after⟩ := line
  by_cases empty : before = ""
  · subst empty
    have same : deleteBefore ⟨"", after⟩ = ⟨"", after⟩ := by simp [deleteBefore, splitLast]
    rw [same]
    exact .atStart (.inl rfl)
  · obtain ⟨pieces, piece, isSplit⟩ := Segmentation.exists_last_piece empty
    rw [deleteBefore, splitLast_eq isSplit]
    exact .backspace isSplit

theorem takes_left (line : EditLine) : Takes line .left line.left := by
  obtain ⟨before, after⟩ := line
  by_cases empty : before = ""
  · subst empty
    have same : left ⟨"", after⟩ = ⟨"", after⟩ := by simp [left, splitLast]
    rw [same]
    exact .atStart (.inr rfl)
  · obtain ⟨pieces, piece, isSplit⟩ := Segmentation.exists_last_piece empty
    rw [left, splitLast_eq isSplit]
    exact .left isSplit

theorem takes_deleteAfter (line : EditLine) : Takes line .delete line.deleteAfter := by
  obtain ⟨before, after⟩ := line
  by_cases empty : after = ""
  · subst empty
    have same : deleteAfter ⟨before, ""⟩ = ⟨before, ""⟩ := by simp [deleteAfter, splitFirst]
    rw [same]
    exact .atEnd (.inl rfl)
  · obtain ⟨piece, pieces, isSplit⟩ := Segmentation.exists_first_piece empty
    rw [deleteAfter, splitFirst_eq isSplit]
    exact .delete isSplit

theorem takes_right (line : EditLine) : Takes line .right line.right := by
  obtain ⟨before, after⟩ := line
  by_cases empty : after = ""
  · subst empty
    have same : right ⟨before, ""⟩ = ⟨before, ""⟩ := by simp [right, splitFirst]
    rw [same]
    exact .atEnd (.inr rfl)
  · obtain ⟨piece, pieces, isSplit⟩ := Segmentation.exists_first_piece empty
    rw [right, splitFirst_eq isSplit]
    exact .right isSplit

end EditLine

/-- A key that does not end the edit changes the line, and nothing else. -/
theorem App.takes_insertKey [Segmentation] (app : App) {key : Key} (notEnter : key ≠ .enter)
    (notEscape : key ≠ .escape) :
    ∃ line, app.insertKey key = { app with editLine := line } ∧ Takes app.editLine key line := by
  cases key with
  | enter => exact absurd rfl notEnter
  | escape => exact absurd rfl notEscape
  | char c => exact ⟨_, rfl, .char c⟩
  | backspace => exact ⟨_, rfl, app.editLine.takes_deleteBefore⟩
  | delete => exact ⟨_, rfl, app.editLine.takes_deleteAfter⟩
  | left => exact ⟨_, rfl, app.editLine.takes_left⟩
  | right => exact ⟨_, rfl, app.editLine.takes_right⟩
  | home => exact ⟨_, rfl, .home⟩
  | toEnd => exact ⟨_, rfl, .toEnd⟩
  | tab | up | down | other => exact ⟨app.editLine, rfl, .ignored (by simp)⟩

/-! ### Offsets -/

/-- A text with the number of bytes before a cursor. -/
structure ByteLine where
  text : String
  offset : Nat
deriving DecidableEq, Repr

/-- The same line, with the cursor as an offset. -/
def EditLine.bytes (line : EditLine) : ByteLine := ⟨line.text, line.cursor⟩

namespace ByteLine

/-- The texts before and behind an offset. There are none if it is no place between characters. -/
def cut? (text : String) (offset : Nat) : Option (String × String) :=
  (text.pos? ⟨offset⟩).map fun place => ((text.sliceTo place).copy, (text.sliceFrom place).copy)

/-- A text without what stands between two offsets. -/
def without? (text : String) (start stop : Nat) : Option String := do
  let (before, _) ← cut? text start
  let (_, after) ← cut? text stop
  if start ≤ stop then some (before ++ after) else none

/-- Where the last piece before the cursor begins, if there is one. -/
def boundaryBefore? [Segmentation] (line : ByteLine) : Option (Option Nat) := do
  let (before, _) ← cut? line.text line.offset
  match Segmentation.texts before with
  | [] => return none
  | pieces => return some (String.join pieces.dropLast).utf8ByteSize

/-- Where the first piece behind the cursor ends, if there is one. -/
def boundaryAfter? [Segmentation] (line : ByteLine) : Option (Option Nat) := do
  let (_, after) ← cut? line.text line.offset
  return (Segmentation.texts after).head?.map fun piece => line.offset + piece.utf8ByteSize

/-- Type a character. -/
def type? (line : ByteLine) (c : Char) : Option ByteLine := do
  let (before, after) ← cut? line.text line.offset
  return ⟨before.push c ++ after, line.offset + c.utf8Size⟩

/-- Delete the piece before the cursor. -/
def deleteBefore? [Segmentation] (line : ByteLine) : Option ByteLine := do
  match ← line.boundaryBefore? with
  | some start => return ⟨← without? line.text start line.offset, start⟩
  | none => return line

/-- Delete the piece behind the cursor. -/
def deleteAfter? [Segmentation] (line : ByteLine) : Option ByteLine := do
  match ← line.boundaryAfter? with
  | some stop => return ⟨← without? line.text line.offset stop, line.offset⟩
  | none => return line

/-- Move the cursor to a boundary, if there is one. -/
def moveTo (line : ByteLine) (boundary : Option Nat) : ByteLine :=
  { line with offset := boundary.getD line.offset }

/-- Take a key that does not end the edit. There is no line if a cut would have been wrong. -/
def take? [Segmentation] (line : ByteLine) : Key → Option ByteLine
  | .char c => line.type? c
  | .backspace => line.deleteBefore?
  | .delete => line.deleteAfter?
  | .left => line.boundaryBefore?.map line.moveTo
  | .right => line.boundaryAfter?.map line.moveTo
  | .home => some { line with offset := 0 }
  | .toEnd => some { line with offset := line.text.utf8ByteSize }
  | _ => some line

theorem cut?_append (before after : String) :
    cut? (before ++ after) before.utf8ByteSize = some (before, after) := by
  have between := @String.Pos.splits_append_rawEndPos before after
  have valid : String.Pos.Raw.IsValid (before ++ after) ⟨before.utf8ByteSize⟩ :=
    String.Pos.Raw.isValid_rawEndPos.append_right after
  rw [cut?, String.pos?, String.Slice.pos?,
    dif_pos (String.Pos.Raw.isValidForSlice_eq_true_iff.mpr valid.toSlice)]
  exact congrArg some (Prod.ext between.copy_sliceTo_eq between.copy_sliceFrom_eq)

theorem without?_append (left middle right : String) :
    without? (left ++ middle ++ right) left.utf8ByteSize (left ++ middle).utf8ByteSize =
      some (left ++ right) := by
  have first := cut?_append left (middle ++ right)
  rw [← String.append_assoc] at first
  have ordered : left.utf8ByteSize ≤ (left ++ middle).utf8ByteSize := by
    rw [String.utf8ByteSize_append]
    omega
  simp only [without?, first, cut?_append, Option.bind_eq_bind, Option.bind_some, if_pos ordered]

section Places

variable [Segmentation] {before after piece : String} {pieces : List String}

theorem boundaryBefore?_eq (isSplit : Segmentation.texts before = pieces ++ [piece]) :
    boundaryBefore? (EditLine.bytes ⟨before, after⟩) =
      some (some (String.join pieces).utf8ByteSize) := by
  have cut : cut? (before ++ after) before.utf8ByteSize = _ := cut?_append before after
  simp only [boundaryBefore?, EditLine.bytes, EditLine.text, EditLine.cursor, cut, isSplit,
    Option.bind_eq_bind, Option.bind_some]
  split
  · next none => simp at none
  · simp

theorem boundaryBefore?_eq_none : boundaryBefore? (EditLine.bytes ⟨"", after⟩) = some none := by
  have cut : cut? ("" ++ after) "".utf8ByteSize = _ := cut?_append "" after
  simp only [boundaryBefore?, EditLine.bytes, EditLine.text, EditLine.cursor, cut,
    Option.bind_eq_bind, Option.bind_some, Segmentation.texts_empty]
  rfl

theorem boundaryAfter?_eq (isSplit : Segmentation.texts after = piece :: pieces) :
    boundaryAfter? (EditLine.bytes ⟨before, after⟩) =
      some (some (before ++ piece).utf8ByteSize) := by
  have cut : cut? (before ++ after) before.utf8ByteSize = _ := cut?_append before after
  simp only [boundaryAfter?, EditLine.bytes, EditLine.text, EditLine.cursor, cut, isSplit,
    Option.bind_eq_bind, Option.bind_some, String.utf8ByteSize_append]
  rfl

theorem boundaryAfter?_eq_none : boundaryAfter? (EditLine.bytes ⟨before, ""⟩) = some none := by
  have cut : cut? (before ++ "") before.utf8ByteSize = _ := cut?_append before ""
  simp only [boundaryAfter?, EditLine.bytes, EditLine.text, EditLine.cursor, cut,
    Option.bind_eq_bind, Option.bind_some, Segmentation.texts_empty]
  rfl

end Places

end ByteLine

/-- The same key makes the same of the line with the cursor as an offset, and no cut is wrong. -/
theorem Takes.bytes [Segmentation] {line after : EditLine} {key : Key} (takes : Takes line key after) :
    line.bytes.take? key = some after.bytes := by
  cases takes with
  | @char before after c =>
    have cut : ByteLine.cut? (EditLine.text ⟨before, after⟩) (EditLine.cursor ⟨before, after⟩) =
        some (before, after) := ByteLine.cut?_append before after
    change ByteLine.type? _ c = _
    simp only [ByteLine.type?, EditLine.bytes, cut, Option.bind_eq_bind, Option.bind_some]
    simp [EditLine.text, EditLine.cursor]
  | @backspace before after piece pieces isSplit =>
    have start := @ByteLine.boundaryBefore?_eq _ before after piece pieces isSplit
    obtain rfl := Segmentation.eq_join_append isSplit
    have removed := ByteLine.without?_append (String.join pieces) piece after
    change ByteLine.deleteBefore? _ = _
    simp only [ByteLine.deleteBefore?, start, Option.bind_eq_bind, Option.bind_some]
    simp only [EditLine.bytes, EditLine.text, EditLine.cursor, removed, Option.bind_some]
    rfl
  | @delete before after piece pieces isSplit =>
    have stop := @ByteLine.boundaryAfter?_eq _ before after piece pieces isSplit
    obtain rfl := Segmentation.eq_append_join isSplit
    have removed := ByteLine.without?_append before piece (String.join pieces)
    rw [String.append_assoc] at removed
    change ByteLine.deleteAfter? _ = _
    simp only [ByteLine.deleteAfter?, stop, Option.bind_eq_bind, Option.bind_some]
    simp only [EditLine.bytes, EditLine.text, EditLine.cursor, removed, Option.bind_some]
    rfl
  | @left before after piece pieces isSplit =>
    have start := @ByteLine.boundaryBefore?_eq _ before after piece pieces isSplit
    obtain rfl := Segmentation.eq_join_append isSplit
    change Option.map _ (ByteLine.boundaryBefore? _) = _
    rw [start, Option.map_some]
    simp only [ByteLine.moveTo, EditLine.bytes, EditLine.text, EditLine.cursor, String.append_assoc]
    rfl
  | @right before after piece pieces isSplit =>
    have stop := @ByteLine.boundaryAfter?_eq _ before after piece pieces isSplit
    obtain rfl := Segmentation.eq_append_join isSplit
    change Option.map _ (ByteLine.boundaryAfter? _) = _
    rw [stop, Option.map_some]
    simp only [ByteLine.moveTo, EditLine.bytes, EditLine.text, EditLine.cursor, String.append_assoc]
    rfl
  | home => rfl
  | @toEnd before after =>
    change some _ = _
    simp [EditLine.bytes, EditLine.text, EditLine.cursor]
  | @atStart after key backward =>
    have none := @ByteLine.boundaryBefore?_eq_none _ after
    rcases backward with rfl | rfl
    · change ByteLine.deleteBefore? _ = _
      simp [ByteLine.deleteBefore?, none]
    · change Option.map _ (ByteLine.boundaryBefore? _) = _
      rw [none]
      rfl
  | @atEnd before key forward =>
    have none := @ByteLine.boundaryAfter?_eq_none _ before
    rcases forward with rfl | rfl
    · change ByteLine.deleteAfter? _ = _
      simp [ByteLine.deleteAfter?, none]
    · change Option.map _ (ByteLine.boundaryAfter? _) = _
      rw [none]
      rfl
  | ignored ignored => rcases ignored with rfl | rfl | rfl | rfl <;> rfl

end MindMap
