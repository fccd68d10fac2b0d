import CatalogRules.Proofs.Number.Comparison
import CatalogRules.Rule.Operator

/-!
What comparisons say of two elements of an order. Where one of the two is missing, they are
only different. A comparison holds of an answer of `compare` exactly when what it says is so.
-/

namespace CatalogRules.Comparison

variable {α : Type} [LinearOrder α]

def Relates (c : Comparison) (a b : α) : Prop :=
  match c with
  | eq => a = b
  | ne => a ≠ b
  | gt => b < a
  | lt => a < b
  | ge => b ≤ a
  | le => a ≤ b

/-- Where one side is missing, the two are only different. -/
def RelatesOption (c : Comparison) : Option α → Option α → Prop
  | some a, some b => c.Relates a b
  | _, _ => c = ne

variable {c : Comparison}

theorem holds_iff_of_ordering {a b : α} {o : Ordering} (hlt : o = .lt → a < b)
    (heq : o = .eq → a = b) (hgt : o = .gt → b < a) :
    c.holds (some o) = true ↔ c.Relates a b := by
  -- Each answer of a comparison excludes the other two.
  cases o with
  | lt =>
      have h := hlt rfl
      cases c <;> simp [holds, Relates, h, h.le, h.ne, h.not_gt, h.not_ge]
  | eq =>
      obtain rfl := heq rfl
      cases c <;> simp [holds, Relates]
  | gt =>
      have h := hgt rfl
      cases c <;> simp [holds, Relates, h, h.le, h.ne', h.not_gt, h.not_ge]

theorem holds_compare_iff {a b : α} : c.holds (some (compare a b)) = true ↔ c.Relates a b :=
  holds_iff_of_ordering compare_lt_iff_lt.1 compare_eq_iff_eq.1 compare_gt_iff_gt.1

theorem holds_bind_compare_iff {a b : Option α} :
    c.holds (do return compare (← a) (← b)) = true ↔ c.RelatesOption a b := by
  have hmissing : c.holds none = true ↔ c = ne := by
    rw [holds_none, decide_eq_true_iff]
  cases a with
  | none => exact hmissing
  | some a =>
      cases b with
      | none => exact hmissing
      | some b => exact holds_compare_iff

end CatalogRules.Comparison
