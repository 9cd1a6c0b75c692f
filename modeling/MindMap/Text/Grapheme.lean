import MindMap.Text.Given
import MindMap.Text.GraphemeProperties

/-!
# Extended grapheme clusters

What a reader sees as one character may be several code points: a letter with its accents, a flag, a
family of joined pictures. The text cursor moves over, and deletes, whole clusters.

The rules are those of Unicode Annex 29. Each asks about the two characters beside a possible boundary
and about a bounded memory of what came before: whether a run of regional indicators is odd, whether a
pictograph was joined, whether a consonant was linked. `Memory` is that memory and `Memory.joins` the
decision. What a cut never does is lose text: `flatten_graphemes`.
-/

namespace MindMap.Text

/-- The class of a character for the boundary rules. -/
inductive BreakClass where
  | carriageReturn
  | lineFeed
  | control
  | extend
  | joiner
  | spacing
  | prepended
  | regional
  | hangulLeading
  | hangulVowel
  | hangulTrailing
  | hangulOpen
  | hangulClosed
  | other
deriving DecidableEq, Repr, Inhabited

/-- Leading consonants of Hangul syllables. -/
def isHangulLeading (code : Nat) : Bool :=
  (0x1100 ≤ code && code < 0x1160) || (0xA960 ≤ code && code < 0xA97D)

/-- Vowels of Hangul syllables, and the vowel signs that behave like them. -/
def isHangulVowel (code : Nat) : Bool :=
  (0x1160 ≤ code && code < 0x11A8) || (0xD7B0 ≤ code && code < 0xD7C7) || code == 0x16D63 ||
    (0x16D67 ≤ code && code < 0x16D6B)

/-- Trailing consonants of Hangul syllables. -/
def isHangulTrailing (code : Nat) : Bool :=
  (0x11A8 ≤ code && code < 0x1200) || (0xD7CB ≤ code && code < 0xD7FC)

/-- Whole Hangul syllables; every twenty-eighth has no trailing consonant yet. -/
def isHangulSyllable (code : Nat) : Bool := 0xAC00 ≤ code && code < 0xD7A4

/-- The letters that stand in for regions; two of them make a flag. -/
def isRegional (code : Nat) : Bool := 0x1F1E6 ≤ code && code < 0x1F200

/-- The class of a character. -/
def breakClass (c : Char) : BreakClass :=
  let code := c.toNat
  if c = '\r' then .carriageReturn
  else if c = '\n' then .lineFeed
  else if 0x20 ≤ code && code < 0x7F then .other
  else if c = '\u200d' then .joiner
  else if isRegional code then .regional
  else if isHangulLeading code then .hangulLeading
  else if isHangulVowel code then .hangulVowel
  else if isHangulTrailing code then .hangulTrailing
  else if isHangulSyllable code then
    if (code - 0xAC00) % 28 == 0 then .hangulOpen else .hangulClosed
  else if breakExtend.contains c then .extend
  else if breakControl.contains c then .control
  else if breakSpacing.contains c then .spacing
  else if breakPrepend.contains c then .prepended
  else .other

/-- How far a sequence that a zero-width joiner may continue has got. -/
inductive PictureState where
  | none
  | pictured
  | joined
deriving DecidableEq, Repr, Inhabited

/-- How far a sequence of linked consonants has got. -/
inductive ConjunctState where
  | none
  | consonant
  | linked
deriving DecidableEq, Repr, Inhabited

/-- What the rules remember of the text before a possible boundary. -/
structure Memory where
  last : BreakClass
  /-- Whether the regional indicators just before it are odd in number. -/
  oddRegional : Bool
  picture : PictureState
  conjunct : ConjunctState
deriving Repr, Inhabited

namespace Memory

/-- The picture state once `c` is read. -/
def pictureAfter (state : PictureState) (c : Char) (kind : BreakClass) : PictureState :=
  if pictographic.contains c then .pictured
  else match state, kind with
    | .pictured, .extend => .pictured
    | .pictured, .joiner => .joined
    | _, _ => .none

/-- The conjunct state once `c` is read. -/
def conjunctAfter (state : ConjunctState) (c : Char) (kind : BreakClass) : ConjunctState :=
  if conjunctConsonant.contains c then .consonant
  else if state = .none then .none
  else if conjunctLinker.contains c then .linked
  else if kind = .joiner || (kind = .extend && c ≠ '\u200c') then state
  else .none

/-- The memory of a text that ends in `c`, given that of the text before `c`. -/
def read (memory : Option Memory) (c : Char) : Memory :=
  let kind := breakClass c
  { last := kind
    oddRegional := kind = .regional && !((memory.map (·.oddRegional)).getD false)
    picture := pictureAfter ((memory.map (·.picture)).getD .none) c kind
    conjunct := conjunctAfter ((memory.map (·.conjunct)).getD .none) c kind }

/-- Whether two neighbouring classes belong to one Hangul syllable. -/
def completesSyllable : BreakClass → BreakClass → Bool
  | .hangulLeading, .hangulLeading => true
  | .hangulLeading, .hangulVowel => true
  | .hangulLeading, .hangulOpen => true
  | .hangulLeading, .hangulClosed => true
  | .hangulOpen, .hangulVowel => true
  | .hangulOpen, .hangulTrailing => true
  | .hangulVowel, .hangulVowel => true
  | .hangulVowel, .hangulTrailing => true
  | .hangulClosed, .hangulTrailing => true
  | .hangulTrailing, .hangulTrailing => true
  | _, _ => false

/-- Whether a class stands alone, with a boundary on either side. -/
def standsAlone : BreakClass → Bool
  | .carriageReturn | .lineFeed | .control => true
  | _ => false

/-- Whether `c` continues the cluster that ends in the remembered text. -/
def joins (memory : Memory) (c : Char) : Bool :=
  let kind := breakClass c
  if memory.last = .carriageReturn && kind = .lineFeed then true
  else if standsAlone memory.last || standsAlone kind then false
  else completesSyllable memory.last kind
    || kind = .extend || kind = .joiner || kind = .spacing
    || memory.last = .prepended
    || (memory.conjunct = .linked && conjunctConsonant.contains c)
    || (memory.picture = .joined && pictographic.contains c)
    || (memory.oddRegional && kind = .regional)

end Memory

/-- Split `text` into clusters, where `cluster` holds the reversed cluster being read. -/
def graphemesFrom (memory : Memory) (cluster : List Char) : List Char → List (List Char)
  | [] => [cluster.reverse]
  | c :: rest =>
    if memory.joins c then graphemesFrom (.read (some memory) c) (c :: cluster) rest
    else cluster.reverse :: graphemesFrom (.read (some memory) c) [c] rest

/-- The extended grapheme clusters of a text, in order. -/
def graphemes : List Char → List (List Char)
  | [] => []
  | c :: rest => graphemesFrom (.read none c) [c] rest

theorem flatten_graphemesFrom (memory : Memory) (cluster text : List Char) :
    (graphemesFrom memory cluster text).flatten = cluster.reverse ++ text := by
  induction text generalizing memory cluster with
  | nil => simp [graphemesFrom]
  | cons c rest inductionHypothesis =>
    unfold graphemesFrom
    split <;> simp [inductionHypothesis]

/-- Cutting a text into clusters loses and moves nothing. -/
theorem flatten_graphemes (text : List Char) : (graphemes text).flatten = text := by
  cases text with
  | nil => rfl
  | cons c rest => simp [graphemes, flatten_graphemesFrom]

theorem ne_nil_of_mem_graphemesFrom {memory : Memory} {cluster text piece : List Char}
    (started : cluster ≠ []) (mem : piece ∈ graphemesFrom memory cluster text) : piece ≠ [] := by
  induction text generalizing memory cluster with
  | nil => simp_all [graphemesFrom]
  | cons c rest inductionHypothesis =>
    unfold graphemesFrom at mem
    split at mem
    · exact inductionHypothesis (by simp) mem
    · rcases List.mem_cons.mp mem with rfl | mem
      · simpa using started
      · exact inductionHypothesis (by simp) mem

/-- No cluster is empty. -/
theorem ne_nil_of_mem_graphemes {text piece : List Char} (mem : piece ∈ graphemes text) :
    piece ≠ [] := by
  cases text with
  | nil => simp [graphemes] at mem
  | cons c rest => exact ne_nil_of_mem_graphemesFrom (by simp) mem

/-- The segmentation of texts into extended grapheme clusters. -/
@[reducible] def extendedClusters : Segmentation where
  pieces := graphemes
  flatten_pieces := flatten_graphemes
  nil_not_mem_pieces _ empty := ne_nil_of_mem_graphemes empty rfl

end MindMap.Text
