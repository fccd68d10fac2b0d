import CatalogRules.Proofs.Text.ByteOrder
import CatalogRules.Store.Matching

/-!
How the clauses on a field are related. A stored value that is no list and an operand have one
order, or none at all, and every comparison of the two is decided by it. So the comparisons are
related as those in an order are, whatever the two are, and a value and an operand without an
order are different and nothing else.
-/

namespace CatalogRules

theorem Comparison.countP_holds (o : Option Ordering) :
    [Comparison.lt, .eq, .gt].countP (fun c => c.holds o) = if o.isSome then 1 else 0 := by
  cases o with
  | none => rfl
  | some o => cases o <;> rfl

namespace Binary64

theorem isSome_place_iff {x : Binary64} : x.place.isSome = true ↔ x ≠ nan := by
  cases x <;> simp [place]

theorem isSome_compare?_iff {x y : Binary64} :
    (x.compare? y).isSome = true ↔ x ≠ nan ∧ y ≠ nan := by
  rw [← isSome_place_iff, ← isSome_place_iff, compare?]
  cases x.place <;> cases y.place <;> simp

theorem ofInt_ne_nan (i : Int) : ofInt i ≠ nan := by
  rw [ofInt, nearest, ofRank]
  split <;> simp

theorem ne_nan_of_isWideInteger {x : Binary64} (h : x.isWideInteger = true) : x ≠ nan := by
  rintro rfl
  cases h

end Binary64

namespace Stored

/-- The order of a stored value and an operand, if the two are of one kind that has an order. -/
def order? : Stored → Value → Option Ordering
  | text s, .text t => some (Text.compareTexts s t)
  | integer i, .number x =>
    if x.isWideInteger then some (Ord.compare i x.truncate) else (Binary64.ofInt i).compare? x
  | boolean a, .boolean b => some (Ord.compare a b)
  | _, _ => none

variable {stored : Stored} {operand : Value}

/-- The order decides every comparison. -/
theorem compare_eq_holds (h : ∀ values, stored ≠ list values) (c : Comparison) :
    stored.compare c operand = c.holds (stored.order? operand) := by
  cases stored with
  | absent => simp [compare, order?, Comparison.holds_none]
  | text s => cases operand <;> simp [compare, order?, Comparison.holds_none]
  | integer i =>
      cases operand with
      | number x =>
          rw [compare, compareInteger, order?]
          split <;> rfl
      | _ => simp [compare, order?, Comparison.holds_none]
  | boolean b => cases operand <;> simp [compare, order?, Comparison.holds_none]
  | list values => exact absurd rfl (h values)

theorem isSome_order?_text {s : String} :
    ((text s).order? operand).isSome = true ↔ ∃ t, operand = .text t := by
  cases operand <;> simp [order?]

theorem isSome_order?_boolean {b : Bool} :
    ((boolean b).order? operand).isSome = true ↔ ∃ b', operand = .boolean b' := by
  cases operand <;> simp [order?]

theorem isSome_order?_integer {i : Int} :
    ((integer i).order? operand).isSome = true ↔ ∃ x, operand = .number x ∧ x ≠ .nan := by
  cases operand with
  | number x =>
      simp only [order?, Value.number.injEq, exists_eq_left']
      split
      · rename_i hwide
        simpa using Binary64.ne_nan_of_isWideInteger hwide
      · rw [Binary64.isSome_compare?_iff]
        exact and_iff_right (Binary64.ofInt_ne_nan i)
  | _ => simp [order?]

/-- A list is equal to the texts in it and different from all else. -/
theorem compare_ne_eq_not (stored : Stored) (operand : Value) :
    stored.compare .ne operand = !stored.compare .eq operand := by
  cases stored with
  | list values => cases operand <;> simp [compare, compareList]
  | _ => rw [compare_eq_holds (by simp), compare_eq_holds (by simp), Comparison.holds_ne_iff]

theorem contains_eq_compare (stored : Stored) (t : String) :
    stored.contains t = stored.compare .eq (.text t) := by
  cases stored with
  | text s =>
      rw [Bool.eq_iff_iff, contains, beq_iff_eq, compare, Comparison.holds, beq_iff_eq,
        Option.some_inj, Text.compareTexts_eq_iff]
  | _ => simp [contains, compare, compareList]

end Stored

namespace Field

/-- The fields that records keep as text, the price among them. -/
def textFields : List Field := [price, stockStatus, category, createdAt, title]

theorem mem_textFields {f : Field} : f ∈ textFields ↔
    f = price ∨ f = stockStatus ∨ f = category ∨ f = createdAt ∨ f = title := by
  simp [textFields]

/-- The operand is of the type that the field has in records. -/
def Suits (f : Field) : Value → Prop
  | .number _ => f = id ∨ f = stockQuantity
  | .boolean _ => f = onSale
  | .text _ => f ∈ textFields

end Field

namespace Record

variable (r : Record) {f : Field}

theorem stored_ne_list (hf : f ≠ .tags) (values : List String) : r.stored f ≠ .list values := by
  have htext (o : Option String) : Stored.ofText? o ≠ .list values := by
    cases o <;> simp [Stored.ofText?]
  cases f with
  | stockQuantity => cases h : r.stockQuantity <;> simp [stored, h]
  | tags => contradiction
  | _ => simp [stored, htext]

theorem stored_integer {f : Field} (hf : f = .id ∨ f = .stockQuantity) :
    r.stored f = .absent ∨ ∃ i, r.stored f = .integer i := by
  rcases hf with rfl | rfl
  · exact .inr ⟨_, rfl⟩
  · cases h : r.stockQuantity <;> simp [stored, h]

theorem stored_text {f : Field} (hf : f ∈ Field.textFields) :
    r.stored f = .absent ∨ ∃ s, r.stored f = .text s := by
  have htext (o : Option String) :
      Stored.ofText? o = .absent ∨ ∃ s, Stored.ofText? o = .text s := by
    cases o <;> simp [Stored.ofText?]
  rcases Field.mem_textFields.1 hf with rfl | rfl | rfl | rfl | rfl
  · exact .inr ⟨_, rfl⟩
  · exact htext r.stockStatus
  · exact htext r.category
  · exact htext r.createdAt
  · exact .inr ⟨_, rfl⟩

/-- A field that is there has an order with the operands of its type, if they are numbers where
they have to be. -/
theorem isSome_order?_iff (hf : f ≠ .tags) (operand : Value) :
    ((r.stored f).order? operand).isSome = true ↔
      r.stored f ≠ .absent ∧ f.Suits operand ∧ operand ≠ .number .nan := by
  have habsent (h : r.stored f = .absent) : ((r.stored f).order? operand).isSome = true ↔
      r.stored f ≠ .absent ∧ f.Suits operand ∧ operand ≠ .number .nan := by
    cases operand <;> simp [h, Stored.order?]
  have hkinds : (f = .id ∨ f = .stockQuantity) ∨ f = .onSale ∨ f ∈ Field.textFields := by
    cases f <;> simp [Field.mem_textFields] at hf ⊢
  rcases hkinds with hnumber | rfl | htext
  · rcases r.stored_integer hnumber with h | ⟨i, h⟩
    · exact habsent h
    · rw [h, Stored.isSome_order?_integer]
      rcases hnumber with rfl | rfl <;> cases operand <;> simp [Field.Suits, Field.mem_textFields]
  · have h : r.stored .onSale = .boolean r.onSale := rfl
    rw [h, Stored.isSome_order?_boolean]
    cases operand <;> simp [Field.Suits, Field.mem_textFields]
  · rcases r.stored_text htext with h | ⟨s, h⟩
    · exact habsent h
    · rw [h, Stored.isSome_order?_text]
      rcases Field.mem_textFields.1 htext with rfl | rfl | rfl | rfl | rfl <;>
        cases operand <;> simp [Field.Suits, htext]

/-- The clauses on a field are related in one way on every record. To contain a text is to be
equal to it, and not to contain it to be different from it; and what is different is what is not
equal, whatever the operand is. On every field but the tags, a value is at least an operand if it
is greater or equal, and at most the operand if it is less or equal. No two of less, equal and
greater hold together, and one of them does exactly when the field is there and the operand is of
its type and is not NaN. -/
theorem clauses_agree (f : Field) :
    (∀ t, r.satisfiesClause ⟨f, .contains t⟩ = r.satisfiesClause ⟨f, .compare .eq (.text t)⟩ ∧
      r.satisfiesClause ⟨f, .notContains t⟩ = r.satisfiesClause ⟨f, .compare .ne (.text t)⟩) ∧
    ∀ operand,
      let holds c := r.satisfiesClause ⟨f, .compare c operand⟩
      holds .ne = !holds .eq ∧
      (f ≠ .tags →
        holds .ge = (holds .gt || holds .eq) ∧ holds .le = (holds .lt || holds .eq) ∧
        [Comparison.lt, .eq, .gt].countP holds ≤ 1 ∧
        ([Comparison.lt, .eq, .gt].countP holds = 1 ↔
          r.stored f ≠ .absent ∧ f.Suits operand ∧ operand ≠ .number .nan)) := by
  refine ⟨fun t => ⟨Stored.contains_eq_compare _ t, ?_⟩, fun operand => ⟨?_, fun hf => ?_⟩⟩
  · have hcontains := Stored.contains_eq_compare (r.stored f) t
    have hne := Stored.compare_ne_eq_not (r.stored f) (.text t)
    simp only [satisfiesClause, satisfiesPredicate, hcontains, hne]
  · exact Stored.compare_ne_eq_not _ operand
  · have hholds (c : Comparison) : r.satisfiesClause ⟨f, .compare c operand⟩ =
        c.holds ((r.stored f).order? operand) := Stored.compare_eq_holds (r.stored_ne_list hf) c
    have hcount := Comparison.countP_holds ((r.stored f).order? operand)
    simp only [hholds, hcount, ← r.isSome_order?_iff hf]
    refine ⟨rfl, rfl, ?_, ?_⟩ <;> split <;> simp_all

/-- A price has an order with every text, and with no number. -/
theorem clauses_agree_price :
    let r : Record := { id := 1, price := "12" }
    let holds (operand : Value) (c : Comparison) := r.satisfiesClause ⟨.price, .compare c operand⟩
    Field.price ≠ .tags ∧
      [Comparison.lt, .eq, .gt].countP (holds (.text "9")) = 1 ∧
      [Comparison.lt, .eq, .gt].countP (holds (.number .zero)) ≠ 1 := by
  intro r holds
  have hprice : Field.price ≠ .tags := by decide
  have hcount (operand : Value) := (((r.clauses_agree .price).2 operand).2 hprice).2.2.2
  refine ⟨hprice, (hcount _).2 ⟨?_, ?_, ?_⟩, fun h => ?_⟩
  · simp [stored]
  · simp [Field.Suits, Field.mem_textFields]
  · simp
  · obtain ⟨-, hsuits, -⟩ := (hcount _).1 h
    simp [Field.Suits] at hsuits

end Record

end CatalogRules
