import Mathlib.Data.Prod.Lex
import Mathlib.Order.Compare
import Mathlib.Tactic.Linarith

/-!
Comparisons. Two comparisons have one answer if they agree on order and on equality, and
of two numbers with a smaller digit behind a greater one the greater digit decides first.
-/

namespace CatalogRules

section

variable {α β : Type*} [LinearOrder α] [LinearOrder β]

theorem compare_congr {a b : α} {c d : β} (hlt : a < b ↔ c < d) (heq : a = b ↔ c = d) :
    compare a b = compare c d := by
  rw [LinearOrder.compare_eq_compareOfLessAndEq, LinearOrder.compare_eq_compareOfLessAndEq]
  simp only [compareOfLessAndEq, hlt, heq]

theorem compare_strictMono {f : α → β} (hf : StrictMono f) (a b : α) :
    compare (f a) (f b) = compare a b :=
  compare_congr hf.lt_iff_lt hf.injective.eq_iff

end

theorem compare_natCast (m n : ℕ) : compare (m : ℤ) (n : ℤ) = compare m n :=
  compare_strictMono Nat.strictMono_cast m n

/-- A digit of a greater weight decides before one of a smaller weight. -/
theorem compare_mul_add {w x y u v : ℤ} (hu : 0 ≤ u ∧ u < w) (hv : 0 ≤ v ∧ v < w) :
    compare (w * x + u) (w * y + v) = (compare x y).then (compare u v) := by
  rcases lt_trichotomy x y with hlt | rfl | hgt
  · have hstep : w * (x + 1) ≤ w * y := mul_le_mul_of_nonneg_left hlt (by omega)
    have hsum : w * x + u < w * y + v := by linarith
    rw [compare_lt_iff_lt.2 hlt, compare_lt_iff_lt.2 hsum]
    rfl
  · rw [compare_eq_iff_eq.2 rfl]
    exact compare_congr (by omega) (by omega)
  · have hstep : w * (y + 1) ≤ w * x := mul_le_mul_of_nonneg_left hgt (by omega)
    have hsum : w * y + v < w * x + u := by linarith
    rw [compare_gt_iff_gt.2 hgt, compare_gt_iff_gt.2 hsum]
    rfl

theorem compare_mul_add_nat {w x y u v : ℕ} (hu : u < w) (hv : v < w) :
    compare (w * x + u) (w * y + v) = (compare x y).then (compare u v) := by
  have hdigits := @compare_mul_add w x y u v (by omega) (by omega)
  rw [compare_natCast, compare_natCast] at hdigits
  rw [← hdigits, ← compare_natCast]
  push_cast
  rfl

end CatalogRules
