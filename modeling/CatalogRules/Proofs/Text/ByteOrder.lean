import CatalogRules.Text.Order
import Mathlib

/-!
The order of texts is the order of their UTF-8 bytes. Of two characters the one
with the smaller code point has the smaller encoding, and no encoding is the
start of another, so the first character that differs decides in both orders.
-/

namespace CatalogRules.Text

/-- The bytes of a text in UTF-8, as numbers. -/
def utf8 (s : String) : List ℕ := s.toUTF8.data.toList.map UInt8.toNat

theorem toNat_lt (c : Char) : c.toNat < 0x110000 := by
  have hvalid := c.valid
  have hval : c.val.toNat = c.toNat := rfl
  simp only [UInt32.isValidChar, Nat.isValidChar] at hvalid
  omega

def utf8Char (c : Char) : List ℕ := (String.utf8EncodeChar c).map UInt8.toNat

theorem utf8_eq_flatMap (s : String) : utf8 s = s.toList.flatMap utf8Char := by
  have hbytes : s.toUTF8 = (s.toList.flatMap String.utf8EncodeChar).toByteArray :=
    String.utf8Encode_toList.symm
  rw [utf8, hbytes, List.toList_data_toByteArray, List.map_flatMap]
  rfl

theorem utf8Char_eq (c : Char) :
    utf8Char c =
      if c.toNat ≤ 0x7F then [c.toNat]
      else if c.toNat ≤ 0x7FF then [c.toNat / 0x40 + 0xC0, c.toNat % 0x40 + 0x80]
      else if c.toNat ≤ 0xFFFF then
        [c.toNat / 0x1000 + 0xE0, c.toNat / 0x40 % 0x40 + 0x80, c.toNat % 0x40 + 0x80]
      else
        [c.toNat / 0x40000 + 0xF0, c.toNat / 0x1000 % 0x40 + 0x80,
          c.toNat / 0x40 % 0x40 + 0x80, c.toNat % 0x40 + 0x80] := by
  have hval : c.val.toNat = c.toNat := rfl
  have hmax : c.toNat < 0x110000 := toNat_lt c
  have hbyte {n m : ℕ} (hn : n < 256) (h : n = m) : (UInt8.ofNat n).toNat = m := by
    rw [UInt8.toNat_ofNat_of_lt' hn, h]
  simp only [utf8Char, String.utf8EncodeChar, hval, apply_ite (List.map UInt8.toNat),
    List.map_cons, List.map_nil]
  split
  · rw [hbyte (by omega) rfl]
  · split
    · rw [hbyte (by omega) (show _ = c.toNat / 0x40 + 0xC0 by omega), hbyte (by omega) rfl]
    · split
      · rw [hbyte (by omega) (show _ = c.toNat / 0x1000 + 0xE0 by omega), hbyte (by omega) rfl,
          hbyte (by omega) rfl]
      · rw [hbyte (by omega) (show _ = c.toNat / 0x40000 + 0xF0 by omega), hbyte (by omega) rfl,
          hbyte (by omega) rfl, hbyte (by omega) rfl]

/-- What follows two different characters does not matter. -/
theorem utf8Char_append_lt {c d : Char} (h : c.toNat < d.toNat) (xs ys : List ℕ) :
    utf8Char c ++ xs < utf8Char d ++ ys := by
  have hmax : d.toNat < 0x110000 := toNat_lt d
  rw [utf8Char_eq, utf8Char_eq]
  -- The encoding of `c` is at most as long as that of `d`; a longer one starts with a greater byte.
  split
  · split
    · simp only [List.cons_append, List.nil_append, List.cons_lt_cons_iff]
      omega
    · split
      · simp only [List.cons_append, List.nil_append, List.cons_lt_cons_iff]
        omega
      · split <;> (simp only [List.cons_append, List.nil_append, List.cons_lt_cons_iff]; omega)
  · rw [if_neg (show ¬d.toNat ≤ 0x7F by omega)]
    split
    · split
      · simp only [List.cons_append, List.nil_append, List.cons_lt_cons_iff]
        omega
      · split <;> (simp only [List.cons_append, List.nil_append, List.cons_lt_cons_iff]; omega)
    · rw [if_neg (show ¬d.toNat ≤ 0x7FF by omega)]
      split
      · split <;> (simp only [List.cons_append, List.nil_append, List.cons_lt_cons_iff]; omega)
      · rw [if_neg (show ¬d.toNat ≤ 0xFFFF by omega)]
        simp only [List.cons_append, List.nil_append, List.cons_lt_cons_iff]
        omega

theorem flatMap_utf8Char_lt {cs ds : List Char} (h : compareChars cs ds = .lt) :
    cs.flatMap utf8Char < ds.flatMap utf8Char := by
  induction cs generalizing ds with
  | nil =>
      cases ds with
      | nil => simp [compareChars] at h
      | cons d ds =>
          have hne : utf8Char d ≠ [] := by
            rw [utf8Char_eq]
            split_ifs <;> simp
          obtain ⟨b, bs, hb⟩ := List.exists_cons_of_ne_nil hne
          rw [List.flatMap_nil, List.flatMap_cons, hb]
          exact List.nil_lt_cons _ _
  | cons c cs ih =>
      cases ds with
      | nil => simp [compareChars] at h
      | cons d ds =>
          rw [List.flatMap_cons, List.flatMap_cons]
          simp only [compareChars] at h
          rcases Ordering.then_eq_lt.1 h with hlt | ⟨heq, hrest⟩
          · exact utf8Char_append_lt (Nat.compare_eq_lt.1 hlt) _ _
          · obtain rfl : c = d := Char.toNat_inj.1 (Nat.compare_eq_eq.1 heq)
            exact List.append_left_lt (ih hrest)

theorem compareChars_swap (cs ds : List Char) :
    (compareChars cs ds).swap = compareChars ds cs := by
  induction cs generalizing ds with
  | nil => cases ds <;> rfl
  | cons c cs ih =>
      cases ds with
      | nil => rfl
      | cons d ds => rw [compareChars, compareChars, Ordering.swap_then, Nat.compare_swap, ih]

theorem eq_of_compareChars_eq {cs ds : List Char} (h : compareChars cs ds = .eq) : cs = ds := by
  induction cs generalizing ds with
  | nil =>
      cases ds with
      | nil => rfl
      | cons d ds => simp [compareChars] at h
  | cons c cs ih =>
      cases ds with
      | nil => simp [compareChars] at h
      | cons d ds =>
          obtain ⟨hhead, hrest⟩ := Ordering.then_eq_eq.1 h
          rw [Char.toNat_inj.1 (Nat.compare_eq_eq.1 hhead), ih hrest]

theorem utf8_lt_of_compareTexts_lt {s t : String} (h : compareTexts s t = .lt) :
    utf8 s < utf8 t := by
  rw [utf8_eq_flatMap, utf8_eq_flatMap]
  exact flatMap_utf8Char_lt h

theorem utf8_lt_of_compareTexts_gt {s t : String} (h : compareTexts s t = .gt) :
    utf8 t < utf8 s := by
  apply utf8_lt_of_compareTexts_lt
  rw [compareTexts, ← compareChars_swap, ← compareTexts, h]
  rfl

theorem compareTexts_eq_iff {s t : String} : compareTexts s t = .eq ↔ s = t := by
  constructor
  · exact fun h => String.toList_inj.1 (eq_of_compareChars_eq h)
  · rintro rfl
    exact compareChars_self _

end CatalogRules.Text
