import Mathlib.Tactic.SplitIfs
import UsedCss.ClassSet
/-!
# The order of texts

Texts are in the order of their Unicode scalar values (`lt_iff_scalars_lt`), and the bytes of their UTF-8
encodings are in the same one (`lt_iff_bytes_lt`): where two characters differ, the encoding of the greater
one has the greater byte at the first place where the two encodings differ.
-/

namespace UsedCss.Text

/-- The Unicode scalar values of a text. -/
def scalars (s : String) : List Nat := s.toList.map Char.toNat

/-- The bytes of a text in UTF-8. -/
def bytes (s : String) : List UInt8 := s.toByteArray.data.toList

theorem bytes_eq (s : String) : bytes s = s.toList.flatMap String.utf8EncodeChar := by
  rw [bytes, ← String.utf8Encode_toList, List.utf8Encode]
  simp

/-- Whether one list of bytes comes before another one, whatever follows the two. -/
def Before (l m : List UInt8) : Prop := ∀ x y, l ++ x < m ++ y

theorem before_cons {a b : Nat} {l m : List UInt8} (ha : a < 256) (hb : b < 256) (hle : a ≤ b)
    (heq : a = b → Before l m) : Before (UInt8.ofNat a :: l) (UInt8.ofNat b :: m) := by
  intro x y
  rw [List.cons_append, List.cons_append, List.cons_lt_cons_iff]
  rcases Nat.lt_or_eq_of_le hle with hlt | rfl
  · left
    rw [UInt8.lt_iff_toNat_lt, UInt8.toNat_ofNat', UInt8.toNat_ofNat']
    omega
  · exact .inr ⟨rfl, heq rfl x y⟩

/-- A character's encoding comes before those of the greater ones. -/
theorem before_utf8EncodeChar {c d : Char} (h : c < d) :
    Before (String.utf8EncodeChar c) (String.utf8EncodeChar d) := by
  have hlt : c.val.toNat < d.val.toNat := h
  have hd : d.val.toNat < 0x110000 := by
    rcases d.valid with hd | hd
    · omega
    · exact hd.2
  rw [String.utf8EncodeChar, String.utf8EncodeChar]
  generalize c.val.toNat = v at *
  generalize d.val.toNat = w at *
  -- one case for each pair of lengths; where bytes are equal so far, the next ones are compared
  split_ifs
  all_goals
    repeat' (refine before_cons (by omega) (by omega) (by omega) fun _ => ?_)
    try omega

/-- A key that grows with the text orders texts in the same way. -/
theorem lt_iff_of_mono {α : Type} [LT α] [Std.Asymm (α := List α) (· < ·)] {key : String → List α}
    (hkey : ∀ a b, a < b → key a < key b) {a b : String} : a < b ↔ key a < key b := by
  refine ⟨hkey a b, fun h => ?_⟩
  rcases Std.lt_trichotomy a b with hab | rfl | hba
  · exact hab
  · exact (Std.Asymm.asymm _ _ h h).elim
  · exact (Std.Asymm.asymm _ _ h (hkey b a hba)).elim

theorem lt_iff_scalars_lt {a b : String} : a < b ↔ scalars a < scalars b := by
  have hmono : ∀ a b, a < b → scalars a < scalars b := fun _ _ h => List.map_lt (fun _ _ hlt => hlt) h
  exact lt_iff_of_mono hmono

theorem flatMap_utf8EncodeChar_lt {l m : List Char} (h : l < m) :
    l.flatMap String.utf8EncodeChar < m.flatMap String.utf8EncodeChar := by
  induction h with
  | @nil d m =>
    obtain ⟨b, bs, hb⟩ := List.exists_cons_of_ne_nil (String.utf8EncodeChar_ne_nil (c := d))
    rw [List.flatMap_cons, hb]
    exact .nil
  | cons _ ih =>
    rw [List.flatMap_cons, List.flatMap_cons]
    exact List.append_left_lt ih
  | rel hcd =>
    rw [List.flatMap_cons, List.flatMap_cons]
    exact before_utf8EncodeChar hcd _ _

theorem lt_iff_bytes_lt {a b : String} : a < b ↔ bytes a < bytes b := by
  have hmono : ∀ a b, a < b → bytes a < bytes b := fun a b h => by
    rw [bytes_eq, bytes_eq]
    exact flatMap_utf8EncodeChar_lt h
  exact lt_iff_of_mono hmono

end UsedCss.Text
