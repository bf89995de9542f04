import FluentSql.KeyMap
import Mathlib.Tactic.SplitIfs

/-! # The order of texts is the order of their bytes

In UTF-8 a greater code point has a greater encoding, and no encoding begins another one, so a
text that is smaller by its characters is smaller by its bytes (`Text.bytes_lt`). -/

namespace FluentSql

namespace Text

open String (utf8EncodeChar)

/-- The bytes of a text in UTF-8. -/
def bytes (s : String) : List UInt8 := s.toUTF8.data.toList

theorem bytes_eq_flatMap (s : String) : bytes s = s.toList.flatMap utf8EncodeChar := by
  rw [bytes, String.toUTF8_eq_toByteArray, ← String.utf8Encode_toList, List.utf8Encode,
    List.toList_data_toByteArray]

/-! ### One character -/

theorem val_toNat_lt (c : Char) : c.val.toNat < 0x110000 := by
  rcases c.valid with h | h
  · exact Nat.lt_trans h (by decide)
  · exact h.2

theorem cons_ofNat_lt_cons {m n : Nat} (hm : m < 256) (hn : n < 256) {xs ys : List UInt8} :
    UInt8.ofNat m :: xs < UInt8.ofNat n :: ys ↔ m < n ∨ m = n ∧ xs < ys := by
  have hlt : UInt8.ofNat m < UInt8.ofNat n ↔ m < n := by
    rw [UInt8.lt_iff_toNat_lt, UInt8.toNat_ofNat_of_lt' hm, UInt8.toNat_ofNat_of_lt' hn]
  have heq : UInt8.ofNat m = UInt8.ofNat n ↔ m = n := by
    rw [← UInt8.toNat_inj, UInt8.toNat_ofNat_of_lt' hm, UInt8.toNat_ofNat_of_lt' hn]
  rw [List.cons_lt_cons_iff, hlt, heq]

/-- The encodings of two characters differ, in the order of the characters, before either ends. -/
theorem utf8EncodeChar_append_lt {c d : Char} (h : c < d) (xs ys : List UInt8) :
    utf8EncodeChar c ++ xs < utf8EncodeChar d ++ ys := by
  have hcd : c.val.toNat < d.val.toNat := h
  have hd := val_toNat_lt d
  simp only [utf8EncodeChar]
  generalize c.val.toNat = m at hcd ⊢
  generalize d.val.toNat = n at hcd hd ⊢
  have h4096 : ∀ k, k / 4096 = k / 64 / 64 := fun k => by omega
  have h262144 : ∀ k, k / 262144 = k / 64 / 64 / 64 := fun k => by omega
  -- one case for each pair of lengths of encodings
  split_ifs <;>
    simp (disch := omega) only [List.cons_append, List.nil_append, cons_ofNat_lt_cons, h4096,
      h262144] <;>
    omega

/-! ### Whole texts -/

theorem flatMap_utf8EncodeChar_lt {xs ys : List Char} (h : xs < ys) :
    xs.flatMap utf8EncodeChar < ys.flatMap utf8EncodeChar := by
  induction xs generalizing ys with
  | nil =>
      cases ys with
      | nil => exact absurd h (List.lt_irrefl [])
      | cons d ys =>
          obtain ⟨b, bs, hd⟩ := List.exists_cons_of_ne_nil (String.utf8EncodeChar_ne_nil (c := d))
          rw [List.flatMap_nil, List.flatMap_cons, hd]
          exact List.nil_lt_cons b _
  | cons c xs ih =>
      cases ys with
      | nil => exact absurd h (List.not_lt_nil _)
      | cons d ys =>
          rw [List.flatMap_cons, List.flatMap_cons]
          rcases List.cons_lt_cons_iff.mp h with hcd | ⟨rfl, hrest⟩
          · exact utf8EncodeChar_append_lt hcd _ _
          · exact List.append_left_lt (ih hrest)

theorem bytes_lt {s t : String} (h : s < t) : bytes s < bytes t := by
  rw [bytes_eq_flatMap, bytes_eq_flatMap]
  exact flatMap_utf8EncodeChar_lt (String.lt_iff.mp h)

end Text

end FluentSql
