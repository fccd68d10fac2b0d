import Mathlib.Data.List.Forall2

/-!
Lists that are gone through from the first member on, until one of them fails. Conditions, lines,
products and candidates are all gone through in this way.
-/

namespace CatalogRules

variable {α β ε : Type}

theorem exists_forall₂_iff {R : α → β → Prop} {xs : List α} :
    (∃ bs, List.Forall₂ R xs bs) ↔ ∀ x ∈ xs, ∃ b, R x b := by
  induction xs with
  | nil => simp
  | cons x xs ih =>
      rw [List.forall_mem_cons, ← ih]
      constructor
      · rintro ⟨_, h⟩
        obtain ⟨b, bs, hx, hxs, rfl⟩ := List.forall₂_cons_left_iff.1 h
        exact ⟨⟨b, hx⟩, bs, hxs⟩
      · rintro ⟨⟨b, hx⟩, bs, hxs⟩
        exact ⟨b :: bs, .cons hx hxs⟩

/-- Either a check passes on a whole list, or some member is the first on which it fails. -/
theorem forall₂_or_firstError (check : α → Except ε β) (xs : List α) :
    (∃ bs, List.Forall₂ (fun x b => check x = .ok b) xs bs) ∨
      ∃ before x after bs e, xs = before ++ x :: after ∧
        List.Forall₂ (fun x b => check x = .ok b) before bs ∧ check x = .error e := by
  induction xs with
  | nil => exact .inl ⟨[], .nil⟩
  | cons x xs ih =>
      cases hx : check x with
      | error e => exact .inr ⟨[], x, xs, [], e, rfl, .nil, hx⟩
      | ok b =>
          rcases ih with ⟨bs, hall⟩ | ⟨before, y, after, bs, e, rfl, hbefore, hy⟩
          · exact .inl ⟨b :: bs, .cons hx hall⟩
          · exact .inr ⟨x :: before, y, after, b :: bs, e, rfl, .cons hx hbefore, hy⟩

theorem allOk_or_firstError (check : α → Except ε β) (xs : List α) :
    (∀ x ∈ xs, ∃ b, check x = .ok b) ∨
      ∃ before x after e, xs = before ++ x :: after ∧ (∀ y ∈ before, ∃ b, check y = .ok b) ∧
        check x = .error e := by
  rcases forall₂_or_firstError check xs with hall | ⟨before, x, after, bs, e, hxs, hbefore, hx⟩
  · exact .inl (exists_forall₂_iff.1 hall)
  · exact .inr ⟨before, x, after, e, hxs, exists_forall₂_iff.1 ⟨bs, hbefore⟩, hx⟩

end CatalogRules
