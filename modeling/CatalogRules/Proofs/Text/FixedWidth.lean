import CatalogRules.Proofs.Number.Comparison
import CatalogRules.Proofs.Text.Digits
import CatalogRules.Text.Order
import CatalogRules.Time.Instant

/-!
Numbers of fixed width. Of two texts with as many digits the one with the smaller number
comes first, and zeros in front make up for digits that a number has less.
-/

namespace CatalogRules

namespace Text

variable {as bs : List Char}

theorem compareChars_append (h : as.length = bs.length) (cs ds : List Char) :
    compareChars (as ++ cs) (bs ++ ds) = (compareChars as bs).then (compareChars cs ds) := by
  induction as generalizing bs with
  | nil =>
      rw [List.length_nil, eq_comm, List.length_eq_zero_iff] at h
      subst h
      rfl
  | cons a as ih =>
      cases bs with
      | nil => cases h
      | cons b bs =>
          rw [List.length_cons, List.length_cons, Nat.add_right_cancel_iff] at h
          rw [List.cons_append, List.cons_append, compareChars, compareChars, ih h,
            Ordering.then_assoc]

@[simp] theorem compareChars_cons_self (c : Char) (cs ds : List Char) :
    compareChars (c :: cs) (c :: ds) = compareChars cs ds := by
  rw [compareChars, compare_eq_iff_eq.2 rfl]
  rfl

theorem digitsValue_cons (c : Char) (cs : List Char) :
    digitsValue (c :: cs) = 10 ^ cs.length * (c.toNat - '0'.toNat) + digitsValue cs := by
  rw [digitsValue, Nat.ofDigitChars_cons, Nat.mul_zero, Nat.zero_add,
    Nat.ofDigitChars_eq_ofDigitChars_zero, digitsValue]

theorem digitsValue_lt (h : ∀ c ∈ as, c.isDigit = true) : digitsValue as < 10 ^ as.length := by
  induction as with
  | nil => exact Nat.one_pos
  | cons c cs ih =>
      rw [List.forall_mem_cons] at h
      have hrest := ih h.2
      have hdigit : c.toNat - '0'.toNat ≤ 9 := by
        have hc := toNat_of_isDigit h.1
        have hzero : '0'.toNat = 0x30 := rfl
        omega
      have hproduct := Nat.mul_le_mul_left (10 ^ cs.length) hdigit
      rw [digitsValue_cons, List.length_cons, Nat.pow_succ]
      omega

/-- As many digits compare as the numbers they write. -/
theorem compareChars_digits (has : ∀ c ∈ as, c.isDigit = true) (hbs : ∀ c ∈ bs, c.isDigit = true)
    (h : as.length = bs.length) :
    compareChars as bs = compare (digitsValue as) (digitsValue bs) := by
  induction as generalizing bs with
  | nil =>
      rw [List.length_nil, eq_comm, List.length_eq_zero_iff] at h
      subst h
      rfl
  | cons a as ih =>
      cases bs with
      | nil => cases h
      | cons b bs =>
          rw [List.length_cons, List.length_cons, Nat.add_right_cancel_iff] at h
          rw [List.forall_mem_cons] at has hbs
          have hdigit : compare a.toNat b.toNat =
              compare (a.toNat - '0'.toNat) (b.toNat - '0'.toNat) := by
            have ha := toNat_of_isDigit has.1
            have hb := toNat_of_isDigit hbs.1
            have hzero : '0'.toNat = 0x30 := rfl
            exact compare_congr (by omega) (by omega)
          rw [compareChars, digitsValue_cons, digitsValue_cons, ← h,
            compare_mul_add_nat (digitsValue_lt has.2) (h ▸ digitsValue_lt hbs.2), ih has.2 hbs.2 h,
            hdigit]

end Text

namespace Instant

open Text (digitsValue compareChars)

variable {width m n : ℕ}

theorem length_padded (hwidth : 0 < width) (h : n < 10 ^ width) :
    (padded width n).length = width := by
  have hdigits := (Nat.length_toDigits_le_iff (by decide) hwidth).2 h
  rw [padded, List.length_append, List.length_replicate]
  omega

theorem isDigit_of_mem_padded {c : Char} (h : c ∈ padded width n) : c.isDigit = true := by
  rcases List.mem_append.1 h with hzero | hdigit
  · rw [List.eq_of_mem_replicate hzero]
    rfl
  · exact Text.isDigit_of_mem_toDigits hdigit

theorem digitsValue_padded (width n : ℕ) : digitsValue (padded width n) = n := by
  rw [padded, Text.digitsValue_zeros_append, Text.digitsValue_toDigits]

theorem compareChars_padded_append (hwidth : 0 < width) (hm : m < 10 ^ width)
    (hn : n < 10 ^ width) (cs ds : List Char) :
    compareChars (padded width m ++ cs) (padded width n ++ ds) =
      (compare m n).then (compareChars cs ds) := by
  have hlength : (padded width m).length = (padded width n).length := by
    rw [length_padded hwidth hm, length_padded hwidth hn]
  rw [Text.compareChars_append hlength,
    Text.compareChars_digits (fun _ => isDigit_of_mem_padded) (fun _ => isDigit_of_mem_padded)
      hlength,
    digitsValue_padded, digitsValue_padded]

end Instant

end CatalogRules
