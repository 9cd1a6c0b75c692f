import MindMap.Outline.Stored
import MindMap.Proofs.Json.RoundTrip
import MindMap.Proofs.Outline.Ids

/-!
# Documents round-trip through their texts

A document is stored as text and read again as the very same document: ids, texts, coordinates,
collapsed branches, blocks and notes. The induction follows the outline. What is stored for a node
is read back if its children are, and the fields that are left out are those whose missing values
the node has.

Two things are asked of a document beside distinct ids, which every document of a session has: its
coordinates are finite, since the infinities and NaN cannot be stored, and it is not nested deeper
than the reader follows. Of the JSON library it is relied on that it reads back single numbers and texts,
and values made of them; which fields there are, and what becomes of one that is missing, is settled here.
-/

namespace MindMap

namespace Json

/-! ### Nesting -/

theorem nesting_le_nestingOfFields {fields : List (String × Json)} {entry : String × Json}
    (member : entry ∈ fields) : entry.2.nesting ≤ nestingOfFields fields := by
  induction fields with
  | nil => cases member
  | cons first rest inductionHypothesis =>
    rcases List.mem_cons.1 member with rfl | later
    · exact Nat.le_max_left ..
    · exact (inductionHypothesis later).trans (Nat.le_max_right ..)

/-- A value in an object is nested less than the object. -/
theorem nesting_lt_ofFields [JsonLibrary] {fields : List (String × Json)} {entry : String × Json}
    (member : entry ∈ fields) : entry.2.nesting < (ofFields fields).nesting := by
  have stored : field entry.1 entry.2 ∈ fields.map fun entry => field entry.1 entry.2 :=
    List.mem_map.2 ⟨entry, member, rfl⟩
  have within := nesting_le_nestingOfFields stored
  exact Nat.lt_one_add_iff.2 within

end Json

namespace Stored

/-! ### Fields -/

/-- A field that is stored once is found. -/
theorem field?_of_mem {fields : List (String × Json)} {name : String} {value : Json}
    (distinct : (fields.map (·.1)).Nodup) (member : (name, value) ∈ fields) :
    field? name fields = some (some value) := by
  have only : fields.filter (·.1 = name) = [(name, value)] := by
    induction fields with
    | nil => cases member
    | cons first rest inductionHypothesis =>
      rw [List.map_cons, List.nodup_cons] at distinct
      rcases List.mem_cons.1 member with rfl | later
      · rw [List.filter_cons_of_pos (by simp), List.filter_eq_nil_iff.2]
        intro other again same
        exact distinct.1 (List.mem_map.2 ⟨other, again, by simpa using same⟩)
      · rw [List.filter_cons_of_neg, inductionHypothesis distinct.2 later]
        intro same
        exact distinct.1 (List.mem_map.2 ⟨_, later, (by simpa using same : first.1 = name).symm⟩)
  rw [field?, only]

/-- A field that is not stored is missing. -/
theorem field?_of_not_mem {fields : List (String × Json)} {name : String}
    (missing : name ∉ fields.map (·.1)) : field? name fields = some none := by
  have none : fields.filter (·.1 = name) = [] := by
    rw [List.filter_eq_nil_iff]
    intro entry member same
    exact missing (List.mem_map.2 ⟨entry, member, by simpa using same⟩)
  rw [field?, none]

/-- Whether a field is stored for a node: children, a block and a note only where there are any. -/
def isStored (node : Node) (name : String) : Bool :=
  if name = "children" then node.hasChildren
  else if name = "markdownMeta" then node.block.isSome
  else if name = "note" then node.note.isSome
  else true

/-! ### What is stored -/

theorem ofName?_name (kind : BlockKind) : BlockKind.ofName? kind.name = some kind := by
  cases kind <;> rfl

/-- The coordinates of every node are finite. -/
def FiniteCoordinates (document : Forest) : Prop :=
  ∀ node ∈ document.nodes, node.x.isFinite = true ∧ node.y.isFinite = true

theorem FiniteCoordinates.cons {item : Item} {children rest : Forest}
    (finite : FiniteCoordinates (.cons item children rest)) :
    (item.x.isFinite = true ∧ item.y.isFinite = true) ∧ FiniteCoordinates children ∧
      FiniteCoordinates rest := by
  refine ⟨finite ⟨item, children⟩ (.head _), fun node member => ?_, fun node member => ?_⟩
  · exact finite node (.tail _ (List.mem_append_left _ member))
  · exact finite node (.tail _ (List.mem_append_right _ member))

variable [JsonLibrary]

/-- The fields that are stored for a node, given its children as stored. -/
def itemFields (item : Item) (children : List Json) : List (String × Json) :=
  [("id", .ofText item.id), ("text", .ofText item.text),
    ("x", encodeNumber item.x), ("y", encodeNumber item.y)]
  ++ (if children.isEmpty then [] else [("children", .array children)])
  ++ [("collapsed", .bool item.collapsed)]
  ++ (match item.block with
    | some block => [("markdownMeta", encodeBlock block)]
    | none => [])
  ++ (match item.note with
    | some note => [("note", .ofText note)]
    | none => [])

theorem encodeRoots_isEmpty (forest : Forest) : (encodeRoots forest).isEmpty = forest.isEmpty := by
  cases forest <;> rfl

/-- What is stored for a node, children included. -/
def encodeNode (node : Node) : Json := encodeItem node.toItem (encodeRoots node.children)

/-- The fields that are stored for a node, children included. -/
def fieldsOf (node : Node) : List (String × Json) :=
  itemFields node.toItem (encodeRoots node.children)

theorem encodeNode_eq (node : Node) : encodeNode node = .ofFields (fieldsOf node) := rfl

/-- The fields of a node are stored in their order, without those that are left out. -/
theorem names_fieldsOf (node : Node) :
    (fieldsOf node).map (·.1) = nodeFields.filter (isStored node) := by
  obtain ⟨⟨id, text, x, y, collapsed, block, note⟩, children⟩ := node
  cases children <;> cases block <;> cases note <;>
    simp [fieldsOf, itemFields, nodeFields, isStored, encodeRoots, Node.hasChildren, Forest.isEmpty]

theorem nodup_fieldsOf (node : Node) : ((fieldsOf node).map (·.1)).Nodup := by
  rw [names_fieldsOf]
  exact List.Pairwise.filter _ (by decide)

section Reading

variable {α : Type} {node : Node} {name : String} {missing : α} {read : Json → Option α}

theorem fieldOr?_of_mem {value : Json} (member : (name, value) ∈ fieldsOf node) :
    fieldOr? name (fieldsOf node) missing read = read value := by
  rw [fieldOr?, field?_of_mem (nodup_fieldsOf node) member]
  rfl

theorem fieldOr?_of_leftOut (leftOut : isStored node name = false) :
    fieldOr? name (fieldsOf node) missing read = some missing := by
  have absent : name ∉ (fieldsOf node).map (·.1) := by
    intro member
    rw [names_fieldsOf, List.mem_filter, leftOut] at member
    cases member.2
  rw [fieldOr?, field?_of_not_mem absent]
  rfl

end Reading

/-- Children are stored where there are any. -/
theorem children_mem_fieldsOf {node : Node} (some : node.hasChildren = true) :
    ("children", Json.array (encodeRoots node.children)) ∈ fieldsOf node := by
  have stored : (encodeRoots node.children).isEmpty = false := by
    rw [encodeRoots_isEmpty]
    simpa [Node.hasChildren] using some
  simp [fieldsOf, itemFields, stored]

/-- Children that are left out are none, and others are read from what is stored for them. -/
theorem fieldOr?_children (node : Node) {read : Json → Option (List Node)}
    (reads : node.hasChildren = true →
      read (.array (encodeRoots node.children)) = some node.children.roots) :
    fieldOr? "children" (fieldsOf node) [] read = some node.children.roots := by
  cases some : node.hasChildren with
  | false =>
    rw [fieldOr?_of_leftOut (by simpa [isStored] using some)]
    cases children : node.children with
    | nil => rfl
    | cons => simp [Node.hasChildren, children, Forest.isEmpty] at some
  | true => rw [fieldOr?_of_mem (children_mem_fieldsOf some), reads some]

/-! ### What is read -/

section

variable (assumed : JsonLibrary.ReadsBack)

include assumed

theorem text?_ofText (text : String) : (Json.ofText text).text? = some text := assumed.text text

/-- A finite coordinate is read as it is stored. -/
theorem decodeNumber?_encodeNumber {x : Float} (finite : x.isFinite = true) :
    decodeNumber? (encodeNumber x) = some x := by
  rw [encodeNumber, if_pos finite, decodeNumber?, assumed.number finite]

/-- A small whole number is read as it is stored. -/
theorem decodeByte?_encodeByte (n : UInt8) : decodeByte? (encodeByte n) = some n := assumed.byte n

/-- The fields of a record are found with their keys. -/
theorem fieldsOf?_ofFields (names : List String) (fields : List (String × Json)) :
    fieldsOf? names (.ofFields fields) = some fields := by
  simp only [fieldsOf?, Json.ofFields]
  induction fields with
  | nil => rfl
  | cons first rest inductionHypothesis =>
    simp only [List.map_cons, List.mapM_cons, inductionHypothesis]
    simp [Json.field, assumed.text]

/-- A block is read as it is stored. -/
theorem decodeBlock?_encodeBlock (depth : Nat) (block : Block) :
    decodeBlock? (depth + 1) (encodeBlock block) = some block := by
  have kind : decodeKind? depth (.ofText block.kind.name) = some block.kind := by
    rw [decodeKind?.eq_def]
    simp [Json.ofText, assumed.text, ofName?_name]
  rw [decodeBlock?, encodeBlock, fieldsOf?_ofFields assumed]
  simp [fieldOr?, field?, decodeByte?_encodeByte assumed, kind]

theorem fieldOr?_block {node : Node} {depth : Nat}
    (inside : ∀ entry ∈ fieldsOf node, entry.2.nesting ≤ depth) :
    fieldOr? "markdownMeta" (fieldsOf node) none (orNull? (decodeBlock? depth)) =
      some node.block := by
  cases stored : node.block with
  | none => exact fieldOr?_of_leftOut (by simp [isStored, stored])
  | some block =>
    have member : ("markdownMeta", encodeBlock block) ∈ fieldsOf node := by
      simp [fieldsOf, itemFields, stored]
    have within := inside _ member
    dsimp only at within
    rw [encodeBlock, Json.ofFields, Json.nesting] at within
    obtain ⟨depth, rfl⟩ : ∃ less, depth = less + 1 := ⟨depth - 1, by omega⟩
    rw [fieldOr?_of_mem member]
    change (decodeBlock? (depth + 1) (encodeBlock block)).map some = _
    rw [decodeBlock?_encodeBlock assumed, Option.map_some]

theorem fieldOr?_note (node : Node) :
    fieldOr? "note" (fieldsOf node) none (orNull? Json.text?) = some node.note := by
  cases stored : node.note with
  | none => exact fieldOr?_of_leftOut (by simp [isStored, stored])
  | some note =>
    have member : ("note", Json.ofText note) ∈ fieldsOf node := by
      simp [fieldsOf, itemFields, stored]
    rw [fieldOr?_of_mem member]
    change (Json.ofText note).text?.map some = _
    rw [text?_ofText assumed, Option.map_some]

/-- What is stored for a node is read as that node if what is stored for its children is read as
them. -/
theorem decodeNode?_encodeNode {node : Node} {depth : Nat} (finiteX : node.x.isFinite = true)
    (finiteY : node.y.isFinite = true) (fits : (encodeNode node).nesting ≤ depth + 1)
    (decoded : ∀ inner, Json.nestingOfItems (encodeRoots node.children) ≤ inner →
      (encodeRoots node.children).mapM (decodeNode? inner) = some node.children.roots) :
    decodeNode? (depth + 1) (encodeNode node) = some node := by
  have inside : ∀ entry ∈ fieldsOf node, entry.2.nesting ≤ depth := fun _ member =>
    Nat.lt_succ_iff.1 (Nat.lt_of_lt_of_le (Json.nesting_lt_ofFields member) fits)
  have id : field? "id" (fieldsOf node) = some (some (.ofText node.id)) :=
    field?_of_mem (nodup_fieldsOf node) (by simp [fieldsOf, itemFields])
  have text : fieldOr? "text" (fieldsOf node) "" Json.text? = some node.text := by
    rw [fieldOr?_of_mem (show ("text", Json.ofText node.text) ∈ _ by
      simp [fieldsOf, itemFields]), text?_ofText assumed]
  have x : fieldOr? "x" (fieldsOf node) 0 decodeNumber? = some node.x := by
    rw [fieldOr?_of_mem (show ("x", encodeNumber node.x) ∈ _ by
      simp [fieldsOf, itemFields]), decodeNumber?_encodeNumber assumed finiteX]
  have y : fieldOr? "y" (fieldsOf node) 0 decodeNumber? = some node.y := by
    rw [fieldOr?_of_mem (show ("y", encodeNumber node.y) ∈ _ by
      simp [fieldsOf, itemFields]), decodeNumber?_encodeNumber assumed finiteY]
  have collapsed : fieldOr? "collapsed" (fieldsOf node) false Json.bool? = some node.collapsed := by
    rw [fieldOr?_of_mem (show ("collapsed", Json.bool node.collapsed) ∈ _ by
      simp [fieldsOf, itemFields])]
    rfl
  rw [decodeNode?, encodeNode_eq, fieldsOf?_ofFields assumed]
  simp only [Option.bind_eq_bind, Option.bind_some, id, text?_ofText assumed, text, x, y, collapsed,
    fieldOr?_block assumed inside, fieldOr?_note assumed, Option.pure_def]
  rw [fieldOr?_children node]
  · simp
  · intro some
    have within := inside _ (children_mem_fieldsOf some)
    dsimp only at within
    rw [Json.nesting] at within
    cases depth with
    | zero => omega
    | succ depth => exact decoded depth (by omega)

/-- What is stored for the roots of a forest is read as those roots. -/
theorem decode_encodeRoots {forest : Forest} (finite : FiniteCoordinates forest) {depth : Nat}
    (fits : Json.nestingOfItems (encodeRoots forest) ≤ depth) :
    (encodeRoots forest).mapM (decodeNode? depth) = some forest.roots := by
  induction forest generalizing depth with
  | nil => rfl
  | cons item children rest childrenHypothesis restHypothesis =>
    obtain ⟨⟨finiteX, finiteY⟩, finiteChildren, finiteRest⟩ := finite.cons
    rw [encodeRoots, Json.nestingOfItems] at fits
    have restRead := restHypothesis finiteRest ((Nat.le_max_right ..).trans fits)
    have fitsNode : (encodeNode ⟨item, children⟩).nesting ≤ depth := (Nat.le_max_left ..).trans fits
    have positive : 0 < (encodeNode ⟨item, children⟩).nesting := by
      rw [encodeNode_eq, Json.ofFields, Json.nesting]
      omega
    obtain ⟨depth, rfl⟩ : ∃ less, depth = less + 1 := ⟨depth - 1, by omega⟩
    have nodeRead : decodeNode? (depth + 1) (encodeNode ⟨item, children⟩) = some ⟨item, children⟩ :=
      decodeNode?_encodeNode assumed finiteX finiteY fitsNode
        fun _ fitsChildren => childrenHypothesis finiteChildren fitsChildren
    rw [encodeNode] at nodeRead
    rw [encodeRoots, List.mapM_cons, nodeRead, restRead]
    rfl

end

/-! ### Spellings -/

theorem spelled_encodeNumber {x : Float} (finite : x.isFinite = true) :
    (encodeNumber x).Spelled := by
  rw [encodeNumber, if_pos finite]
  exact .number finite

theorem spelled_encodeByte (n : UInt8) : (encodeByte n).Spelled := .byte n

theorem spelled_encodeBlock (block : Block) : (encodeBlock block).Spelled := by
  refine .object fun entry member => ?_
  simp only [List.mem_cons, List.not_mem_nil, or_false] at member
  rcases member with rfl | rfl | rfl
  · exact .text _
  · exact spelled_encodeByte _
  · exact spelled_encodeByte _

/-- What is stored for a node is spelled throughout if what is stored for its children is. -/
theorem spelled_encodeNode {node : Node} (finiteX : node.x.isFinite = true)
    (finiteY : node.y.isFinite = true)
    (children : ∀ child ∈ encodeRoots node.children, child.Spelled) :
    (encodeNode node).Spelled := by
  refine .object fun entry member => ?_
  simp only [List.mem_append, List.mem_cons, List.not_mem_nil, or_false] at member
  rcases member with (((((rfl | rfl | rfl | rfl) | stored) | rfl) | stored) | stored)
  · exact .text _
  · exact .text _
  · exact spelled_encodeNumber finiteX
  · exact spelled_encodeNumber finiteY
  · split at stored
    · cases stored
    · obtain rfl := List.mem_singleton.1 stored
      exact .array children
  · exact .bool _
  · split at stored
    · obtain rfl := List.mem_singleton.1 stored
      exact spelled_encodeBlock _
    · cases stored
  · split at stored
    · obtain rfl := List.mem_singleton.1 stored
      exact .text _
    · cases stored

theorem spelled_encodeRoots {forest : Forest} (finite : FiniteCoordinates forest) :
    ∀ stored ∈ encodeRoots forest, stored.Spelled := by
  induction forest with
  | nil => simp [encodeRoots]
  | cons item children rest childrenHypothesis restHypothesis =>
    obtain ⟨⟨finiteX, finiteY⟩, finiteChildren, finiteRest⟩ := finite.cons
    rintro stored (_ | ⟨_, later⟩)
    · have spelled : (encodeNode ⟨item, children⟩).Spelled :=
        spelled_encodeNode finiteX finiteY (childrenHypothesis finiteChildren)
      exact spelled
    · exact restHypothesis finiteRest stored later

theorem spelled_encode {document : Forest} (finite : FiniteCoordinates document) :
    (encode document).Spelled := .array (spelled_encodeRoots finite)

end Stored

namespace Forest

section

variable [JsonLibrary] (assumed : JsonLibrary.ReadsBack)

include assumed

/-- What is stored for a document is accepted as that document. -/
theorem ofJson_encode {document : Forest} (distinct : document.Distinct)
    (finite : Stored.FiniteCoordinates document)
    (fits : (Stored.encode document).nesting ≤ JsonLibrary.nestingLimit) :
    ofJson (Stored.encode document) = .ok document := by
  rw [Stored.encode, Json.nesting] at fits
  have inside : Json.nestingOfItems (Stored.encodeRoots document) ≤ JsonLibrary.nestingLimit - 1 := by
    omega
  have roots := Stored.decode_encodeRoots assumed finite inside
  have decoded : Stored.decodeRoots? (Stored.encode document) = some document := by
    simp [Stored.decodeRoots?, Stored.encode, Json.array?, roots]
  have accepted : document.checkDistinct = .ok document :=
    checkDistinct_eq_ok_iff.2 ⟨distinct, rfl⟩
  simp [ofJson, decoded, accepted]

/-- Both texts of a document, the compact one and the one over lines, are read as the very same
document by a library that reads back what it writes. What they hold of a node are its fields in their
order, without children, block and note where it has none. -/
theorem texts_read_back {document : Forest} (distinct : document.Distinct)
    (finite : Stored.FiniteCoordinates document)
    (fits : (Stored.encode document).nesting ≤ JsonLibrary.nestingLimit) :
    ofText document.compactText = .ok document ∧ ofText document.prettyText = .ok document ∧
      ∀ node ∈ document.nodes, ∃ fields,
        Stored.encodeItem node.toItem (Stored.encodeRoots node.children) = .ofFields fields ∧
          fields.map (·.1) = Stored.nodeFields.filter (Stored.isStored node) := by
  have accepted := ofJson_encode assumed distinct finite fits
  have spelled := Stored.spelled_encode finite
  refine ⟨?_, ?_, fun node _ => ?_⟩
  · rw [ofText, compactText, assumed.value .compact spelled fits]
    exact accepted
  · rw [ofText, prettyText, assumed.value .pretty spelled fits]
    exact accepted
  · exact ⟨Stored.fieldsOf node, rfl, Stored.names_fieldsOf node⟩

end

attribute [local instance] Json.library

/-- A document with a branch, a block, a note, escapes in its texts and coordinates of all layouts.
-/
def varied : Forest :=
  .cons
    { Item.plain "a" "say \"hi\"\n\t\\" with
      x := 1.5, y := -0.0, block := some ⟨.heading, 2, 0⟩ }
    (.cons { Item.plain "b" "" with x := 1e300, y := 0.1, collapsed := true, note := some "\u0001" }
      .nil .nil)
    .nil

theorem varied_texts_read_back :
    varied.Distinct ∧ Stored.FiniteCoordinates varied ∧
      (Stored.encode varied).nesting ≤ JsonLibrary.nestingLimit ∧
      ofText varied.compactText = .ok varied ∧ ofText varied.prettyText = .ok varied ∧
      ∀ node ∈ varied.nodes, ∃ fields,
        Stored.encodeItem node.toItem (Stored.encodeRoots node.children) = .ofFields fields ∧
          fields.map (·.1) = Stored.nodeFields.filter (Stored.isStored node) := by
  have distinct : varied.Distinct := by
    unfold Distinct
    decide +kernel
  have finite : Stored.FiniteCoordinates varied := by
    simp only [Stored.FiniteCoordinates, varied, nodes, Item.plain, List.append_nil, List.mem_cons,
      List.not_mem_nil, or_false, forall_eq_or_imp, forall_eq]
    decide +kernel
  have fits : (Stored.encode varied).nesting ≤ JsonLibrary.nestingLimit := by decide +kernel
  exact ⟨distinct, finite, fits, texts_read_back Json.library_readsBack distinct finite fits⟩

end Forest

end MindMap
