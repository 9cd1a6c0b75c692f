import Mathlib.Algebra.Ring.Nat
import Mathlib.Data.List.Basic

/-!
# The order of bytes

Texts are ordered by code point, and that is the order of their bytes in UTF-8, so a table has its keys in
the order of their bytes. A code is cut into digits of six bits, greatest first, and the first byte also
tells how many follow: the more there are, the greater it is. Where the codes of two characters differ, a
byte differs before either encoding ends, and the greater code has the greater byte. What comes after the
two characters does not matter then, which carries the order over from characters to texts.

One text begins with another exactly if its bytes do.
-/

namespace MindMap.Text

/-- The bytes of a text in UTF-8. -/
def bytes (text : String) : List UInt8 := text.toByteArray.data.toList

theorem bytes_eq_flatMap (text : String) :
    bytes text = text.toList.flatMap String.utf8EncodeChar := by
  rw [bytes, ← String.utf8Encode_toList, List.utf8Encode, List.data_toByteArray]

/-! ### Characters -/

/-- How many bytes follow the first one of a code. -/
def trailing (code : Nat) : Nat :=
  if code ≤ 127 then 0 else if code ≤ 2047 then 1 else if code ≤ 65535 then 2 else 3

/-- The first byte of a code: its greatest digit, marked with the number of bytes that follow. -/
def lead (code : Nat) : Nat :=
  code / 64 ^ trailing code + [0, 192, 224, 240].getD (trailing code) 0

/-- The last `count` digits of a code, each marked as one that follows. -/
def continuation : Nat → Nat → List UInt8
  | 0, _ => []
  | count + 1, code => .ofNat (code / 64 ^ count % 64 + 128) :: continuation count code

theorem toNat_lt (c : Char) : c.toNat < 0x110000 := by
  rcases c.valid with small | ⟨-, large⟩
  · exact Nat.lt_trans small (by decide)
  · exact large

theorem utf8EncodeChar_eq (c : Char) : String.utf8EncodeChar c =
    .ofNat (lead c.toNat) :: continuation (trailing c.toNat) c.toNat := by
  have bound := toNat_lt c
  have isCode : c.val.toNat = c.toNat := rfl
  unfold String.utf8EncodeChar lead trailing
  rw [isCode]
  dsimp only
  split
  · simp [continuation]
  · split
    · have whole : c.toNat / 64 % 32 = c.toNat / 64 := by omega
      simp [continuation, whole]
    · split
      · have whole : c.toNat / 4096 % 16 = c.toNat / 4096 := by omega
        simp [continuation, whole]
      · have whole : c.toNat / 262144 % 8 = c.toNat / 262144 := by omega
        simp [continuation, whole]

/-- The first byte of a greater code is greater, or all is left to the digits that follow. -/
theorem lead_lt_or_eq {low high : Nat} (below : low < high) : lead low < lead high ∨
    lead low = lead high ∧ trailing low = trailing high ∧
      low / 64 ^ trailing low = high / 64 ^ trailing low := by
  unfold lead trailing
  split_ifs <;> simp <;> omega

theorem lead_lt {code : Nat} (isCode : code < 0x110000) : lead code < 256 := by
  unfold lead trailing
  split_ifs <;> simp <;> omega

theorem ofNat_lt_ofNat {low high : Nat} (below : low < high) (isByte : high < 256) :
    UInt8.ofNat low < UInt8.ofNat high := by
  rw [UInt8.lt_iff_toNat_lt, UInt8.toNat_ofNat', UInt8.toNat_ofNat']
  omega

/-- Codes that differ in their last digits alone are told apart by these. -/
theorem continuation_append_lt {count low high : Nat} (below : low < high)
    (sameAbove : low / 64 ^ count = high / 64 ^ count) (s t : List UInt8) :
    continuation count low ++ s < continuation count high ++ t := by
  induction count with
  | zero => exact absurd sameAbove (by simpa using Nat.ne_of_lt below)
  | succ count inductionHypothesis =>
    rw [continuation, continuation, List.cons_append, List.cons_append, List.cons_lt_cons_iff]
    have digits := Nat.div_le_div_right (c := 64 ^ count) (Nat.le_of_lt below)
    rw [Nat.pow_succ, ← Nat.div_div_eq_div_mul, ← Nat.div_div_eq_div_mul] at sameAbove
    rcases Nat.lt_or_eq_of_le digits with less | same
    · exact .inl (ofNat_lt_ofNat (by omega) (by omega))
    · exact .inr ⟨by rw [same], inductionHypothesis same⟩

/-- Whatever comes after two characters, their bytes tell which is less. -/
theorem utf8EncodeChar_append_lt {c d : Char} (below : c < d) (s t : List UInt8) :
    String.utf8EncodeChar c ++ s < String.utf8EncodeChar d ++ t := by
  rw [utf8EncodeChar_eq, utf8EncodeChar_eq, List.cons_append, List.cons_append,
    List.cons_lt_cons_iff]
  have codes : c.toNat < d.toNat := UInt32.lt_iff_toNat_lt.mp below
  rcases lead_lt_or_eq codes with less | ⟨sameLead, sameCount, sameAbove⟩
  · exact .inl (ofNat_lt_ofNat less (lead_lt (toNat_lt d)))
  · rw [sameLead, ← sameCount]
    exact .inr ⟨rfl, continuation_append_lt codes sameAbove s t⟩

/-! ### Texts -/

theorem flatMap_lt_of_lt {left right : List Char} (below : left < right) :
    left.flatMap String.utf8EncodeChar < right.flatMap String.utf8EncodeChar := by
  induction left generalizing right with
  | nil =>
    cases right with
    | nil => exact absurd below (List.not_lt_nil _)
    | cons d right =>
      rw [List.flatMap_cons, utf8EncodeChar_eq]
      exact List.nil_lt_cons _ _
  | cons c left inductionHypothesis =>
    cases right with
    | nil => exact absurd below (List.not_lt_nil _)
    | cons d right =>
      rw [List.flatMap_cons, List.flatMap_cons]
      rcases List.cons_lt_cons_iff.mp below with less | ⟨rfl, rest⟩
      · exact utf8EncodeChar_append_lt less _ _
      · exact List.append_left_lt (inductionHypothesis rest)

/-- Texts are in the order of their bytes. -/
theorem bytes_lt_iff {left right : String} : bytes left < bytes right ↔ left < right := by
  rw [String.lt_iff, bytes_eq_flatMap, bytes_eq_flatMap]
  constructor
  · intro below
    rcases Std.lt_trichotomy left.toList right.toList with less | same | greater
    · exact less
    · exact absurd below (same ▸ List.lt_irrefl _)
    · exact absurd (List.lt_trans below (flatMap_lt_of_lt greater)) (List.lt_irrefl _)
  · exact flatMap_lt_of_lt

/-- A text begins with another exactly if its bytes do. -/
theorem bytes_prefix_iff {start text : String} :
    bytes start <+: bytes text ↔ start.toList <+: text.toList := by
  constructor
  · rintro ⟨rest, split⟩
    refine List.isPrefix_of_utf8Encode_append_eq_utf8Encode rest.toByteArray ?_
    rw [String.utf8Encode_toList, String.utf8Encode_toList]
    refine ByteArray.ext (Array.toList_inj.mp ?_)
    rw [ByteArray.data_append, Array.toList_append, List.data_toByteArray]
    exact split
  · rintro ⟨rest, split⟩
    rw [bytes_eq_flatMap, bytes_eq_flatMap, ← split, List.flatMap_append]
    exact List.prefix_append _ _

end MindMap.Text
