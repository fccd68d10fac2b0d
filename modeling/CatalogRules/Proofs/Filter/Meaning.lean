import CatalogRules.Proofs.Filter.Selection
import CatalogRules.Proofs.Number.Value
import CatalogRules.Proofs.Store.Integers
import CatalogRules.Proofs.Text.ByteOrder

/-!
What a condition says of a record, read off the table of fields and without the
compiler: numbers compare by their values, texts by their bytes, tags by
membership, and what is absent is only different. A compiled filter selects
exactly the records of which all conditions hold.
-/

namespace CatalogRules

open Evaluation (satisfiesAll satisfiesAll_isOk_of_price)

namespace Operator

def Relates {α : Type} [LinearOrder α] (op : Operator) (a b : α) : Prop :=
  match op with
  | equal | doubleEqual => a = b
  | notEqual => a ≠ b
  | greater => b < a
  | less => a < b
  | greaterOrEqual => b ≤ a
  | lessOrEqual => a ≤ b

/-- Where one side is missing, the two are only different. -/
def RelatesOption {α : Type} [LinearOrder α] (op : Operator) : Option α → Option α → Prop
  | some a, some b => op.Relates a b
  | _, _ => op = notEqual

/-- A text that may be absent is equal to another or different from it; no other
operator says anything. -/
def RelatesText (op : Operator) (stored : Option String) (text : String) : Prop :=
  match op with
  | equal | doubleEqual => stored = some text
  | notEqual => stored ≠ some text
  | _ => False

/-- Equality with a set is membership. -/
def RelatesSet (op : Operator) (stored : List String) (text : String) : Prop :=
  match op with
  | equal | doubleEqual => ∃ tag ∈ stored, tag = text
  | notEqual => ∀ tag ∈ stored, tag ≠ text
  | _ => False

def RelatesBoolean (op : Operator) (stored value : Bool) : Prop :=
  match op with
  | equal | doubleEqual => stored = value
  | _ => False

variable {α : Type} [LinearOrder α] {op : Operator}

instance (op : Operator) (a b : α) : Decidable (op.Relates a b) :=
  match op with
  | equal | doubleEqual => inferInstanceAs (Decidable (a = b))
  | notEqual => inferInstanceAs (Decidable (a ≠ b))
  | greater => inferInstanceAs (Decidable (b < a))
  | less => inferInstanceAs (Decidable (a < b))
  | greaterOrEqual => inferInstanceAs (Decidable (b ≤ a))
  | lessOrEqual => inferInstanceAs (Decidable (a ≤ b))

instance (op : Operator) (a b : Option α) : Decidable (op.RelatesOption a b) :=
  match a, b with
  | some a, some b => inferInstanceAs (Decidable (op.Relates a b))
  | some _, none => inferInstanceAs (Decidable (op = notEqual))
  | none, _ => inferInstanceAs (Decidable (op = notEqual))

theorem relates_strictMono {β : Type} [LinearOrder β] {f : α → β} (hf : StrictMono f) {a b : α} :
    op.Relates (f a) (f b) ↔ op.Relates a b := by
  cases op <;> simp only [Relates, hf.lt_iff_lt, hf.le_iff_le, hf.injective.eq_iff, ne_eq]

theorem relatesOption_strictMono {β : Type} [LinearOrder β] {f : α → β} (hf : StrictMono f)
    {a b : Option α} : op.RelatesOption (a.map f) (b.map f) ↔ op.RelatesOption a b := by
  cases a with
  | none => exact Iff.rfl
  | some a =>
      cases b with
      | none => exact Iff.rfl
      | some b => exact relates_strictMono hf

theorem relates_comparison {a b : α} : op.comparison.Relates a b ↔ op.Relates a b := by
  cases op <;> rfl

theorem holds_iff_of_ordering {a b : α} {o : Ordering} (hlt : o = .lt → a < b)
    (heq : o = .eq → a = b) (hgt : o = .gt → b < a) :
    op.comparison.holds (some o) = true ↔ op.Relates a b :=
  (Comparison.holds_iff_of_ordering hlt heq hgt).trans relates_comparison

theorem holds_compare_iff {a b : α} :
    op.comparison.holds (some (compare a b)) = true ↔ op.Relates a b :=
  holds_iff_of_ordering compare_lt_iff_lt.1 compare_eq_iff_eq.1 compare_gt_iff_gt.1

theorem holds_compareTexts_iff {s t : String} :
    op.comparison.holds (some (Text.compareTexts s t)) = true ↔
      op.Relates (Text.utf8 s) (Text.utf8 t) :=
  holds_iff_of_ordering Text.utf8_lt_of_compareTexts_lt
    (fun h => congrArg Text.utf8 (Text.compareTexts_eq_iff.1 h)) Text.utf8_lt_of_compareTexts_gt

theorem comparison_eq_ne_iff : op.comparison = .ne ↔ op = notEqual := by
  cases op <;> simp [comparison]

theorem relatesOption_comparison {a b : Option α} :
    op.comparison.RelatesOption a b ↔ op.RelatesOption a b := by
  cases a with
  | none => exact comparison_eq_ne_iff
  | some a =>
      cases b with
      | none => exact comparison_eq_ne_iff
      | some b => exact relates_comparison

theorem holds_compare?_iff {x y : Binary64} :
    op.comparison.holds (x.compare? y) = true ↔ op.RelatesOption x.value? y.value? := by
  rw [Binary64.compare?_eq]
  exact Comparison.holds_bind_compare_iff.trans relatesOption_comparison

end Operator

namespace Condition

open Binary64 (Extended)

/-- The text that a date is compared with: the canonical form of a timestamp, and
what is no timestamp as it is. -/
def dateOperand (c : Condition) : String :=
  (Timestamp.normalize? c.value.canonical).getD c.value.canonical

/-- What a condition on a field says of a record. A text is compared with the canonical text of the
value: a text as it is, the name of a boolean, and the plain digits of a number. -/
def HoldsOn (c : Condition) (r : Record) : Field → Prop
  | .price => ∃ (x p : Binary64) (q : ℚ), c.value = .number x ∧
      Binary64.ofLiteral? (Text.trimChars r.price.toList) = some p ∧
      p.value? = some (Extended.ofRat q) ∧
      c.operator.RelatesOption (some (Extended.ofRat q)) x.value?
  | .id => ∃ x, c.value = .number x ∧
      c.operator.RelatesOption (some (Extended.ofInt r.id.toNat)) x.value?
  | .stockQuantity => ∃ x, c.value = .number x ∧
      c.operator.RelatesOption (r.stockQuantity.map fun q => Extended.ofInt q.toInt) x.value?
  | .stockStatus => c.operator.RelatesText r.stockStatus c.value.canonical
  | .category => c.operator.RelatesText r.category c.value.canonical
  | .title => c.operator.RelatesText (some r.title) c.value.canonical
  | .tags => c.operator.RelatesSet r.tags c.value.canonical
  | .onSale => ∃ b, c.value = .boolean b ∧ c.operator.RelatesBoolean r.onSale b
  | .createdAt =>
      c.operator.RelatesOption (r.createdAt.map Text.utf8) (some (Text.utf8 c.dateOperand))

/-- The condition names a field and holds of it. -/
def Holds (c : Condition) (r : Record) : Prop :=
  ∃ f : Field, c.field = f.name ∧ c.HoldsOn r f

variable {c : Condition} {g : Filter} {r : Record}

theorem compare_ofText?_iff (stored : Option String) {op : Operator} {text : String}
    (hop : op ∈ [.equal, .doubleEqual, .notEqual]) :
    (Stored.ofText? stored).compare op.comparison (.text text) = true ↔
      op.RelatesText stored text := by
  simp only [List.mem_cons, List.not_mem_nil, or_false] at hop
  cases stored with
  | none =>
      rcases hop with rfl | rfl | rfl <;>
        simp [Stored.ofText?, Stored.compare, Operator.comparison, Operator.RelatesText]
  | some s =>
      rcases hop with rfl | rfl | rfl <;>
        simp [Stored.ofText?, Stored.compare, Operator.comparison, Operator.RelatesText,
          Comparison.holds, Text.compareTexts_eq_iff]

theorem compare_date_iff {op : Operator} {stored : Option String} {text : String} :
    (Stored.ofText? stored).compare op.comparison (.text text) = true ↔
      op.RelatesOption (stored.map Text.utf8) (some (Text.utf8 text)) := by
  cases stored with
  | none =>
      simp [Stored.ofText?, Stored.compare, Operator.RelatesOption, Operator.comparison_eq_ne_iff]
  | some s => exact Operator.holds_compareTexts_iff

theorem satisfies_price_iff {op : Operator} {x : Binary64} :
    Evaluation.satisfies r ⟨.price, op.comparison, x⟩ = .ok true ↔
      ∃ (p : Binary64) (q : ℚ), Binary64.ofLiteral? (Text.trimChars r.price.toList) = some p ∧
        p.value? = some (Extended.ofRat q) ∧
        op.RelatesOption (some (Extended.ofRat q)) x.value? := by
  simp only [Evaluation.satisfies, Record.priceValue?]
  cases hp : Binary64.ofLiteral? (Text.trimChars r.price.toList) with
  | none => simp
  | some p =>
      obtain ⟨q, hq⟩ := Binary64.value?_of_ofLiteral? hp
      simp [hq, Operator.holds_compare?_iff, Extended.ofRat_inj]

theorem contains_tags_iff {text : String} :
    (r.stored .tags).contains text = true ↔ ∃ tag ∈ r.tags, tag = text := by
  simp [Record.stored, Stored.contains]

theorem selects_compiled {f : Field} (hop : c.operator ∈ f.operators) (h : Compiled c f g) :
    g.Selects r ↔ c.HoldsOn r f := by
  -- One case for each form of part. The type of the field tells which field it is,
  -- or leaves a few of which all are treated alike.
  cases h with
  | residual type value =>
      obtain rfl := Field.type_eq_textEncodedNumber_iff.1 type
      rw [Filter.selects_ofResidual, satisfies_price_iff]
      simp only [HoldsOn, value, Value.number.injEq, exists_and_left, exists_eq_left']
  | number type value =>
      rw [Filter.selects_ofClause]
      rcases Field.type_integer_or_number_iff.1 type with rfl | rfl
      · simp only [HoldsOn, value, Value.number.injEq, exists_eq_left']
        exact r.compare_id_iff.trans Operator.relatesOption_comparison
      · simp only [HoldsOn, value, Value.number.injEq, exists_eq_left']
        exact r.compare_stockQuantity_iff.trans Operator.relatesOption_comparison
  | text type =>
      rw [Filter.selects_ofClause]
      rcases Field.type_text_or_enumeratedText_iff.1 type with rfl | rfl | rfl
      · exact compare_ofText?_iff r.stockStatus hop
      · exact compare_ofText?_iff r.category hop
      · exact compare_ofText?_iff (some r.title) hop
  | contains type comparison =>
      obtain rfl := Field.type_eq_textSet_iff.1 type
      rw [Filter.selects_ofClause]
      refine contains_tags_iff.trans ?_
      cases hc : c.operator with
      | equal | doubleEqual => simp only [HoldsOn, hc, Operator.RelatesSet]
      | _ => simp [hc, Operator.comparison] at comparison
  | notContains type comparison =>
      obtain rfl := Field.type_eq_textSet_iff.1 type
      rw [Filter.selects_ofClause]
      have hc := Operator.comparison_eq_ne_iff.1 comparison
      have hnot : (!(r.stored .tags).contains c.value.canonical) = true ↔
          ¬∃ tag ∈ r.tags, tag = c.value.canonical := by
        rw [Bool.not_eq_true', ← Bool.not_eq_true, contains_tags_iff]
      refine hnot.trans ?_
      simp only [HoldsOn, hc, Operator.RelatesSet, not_exists, not_and, ne_eq]
  | @boolean b type value =>
      obtain rfl := Field.type_eq_boolean_iff.1 type
      rw [Filter.selects_ofClause]
      simp only [Field.operators, Field.type, List.mem_cons, List.not_mem_nil, or_false] at hop
      rcases hop with hop | hop <;>
        simp [HoldsOn, value, hop, Operator.RelatesBoolean, Record.satisfiesClause,
          Record.satisfiesPredicate, Record.stored, Stored.compare, Operator.comparison,
          Comparison.holds]
  | date type value =>
      obtain rfl := Field.type_eq_date_iff.1 type
      rw [Filter.selects_ofClause]
      simp only [HoldsOn, dateOperand, value, Option.getD_some]
      exact compare_date_iff
  | rawDate type value equality =>
      obtain rfl := Field.type_eq_date_iff.1 type
      rw [Filter.selects_ofClause]
      simp only [HoldsOn, dateOperand, value, Option.getD_none]
      exact compare_date_iff

/-- What a condition compiles to selects the records of which the condition
holds. -/
theorem selects_iff_holds (h : c.compile = .ok g) : c.Selects r ↔ c.Holds r := by
  obtain ⟨f, hfield, hop, hcompiled⟩ := compile_eq_ok_iff.1 h
  constructor
  · rintro ⟨g', hg', hselects⟩
    rw [h, Except.ok.injEq] at hg'
    subst g'
    exact ⟨f, hfield, (selects_compiled hop hcompiled).1 hselects⟩
  · rintro ⟨f', hfield', hholds⟩
    obtain rfl : f = f' := Field.name_injective (hfield.symm.trans hfield')
    exact ⟨g, h, (selects_compiled hop hcompiled).2 hholds⟩

end Condition

namespace Filter

variable {cs : List Condition} {f : Filter}

theorem selects_compile_iff_holds (h : compile cs = .ok f) (r : Record) :
    f.Selects r ↔ ∀ c ∈ cs, c.Holds r := by
  rw [selects_compile h]
  have hok := compile_isOk_iff.1 ⟨f, h⟩
  refine forall₂_congr fun c hc => ?_
  obtain ⟨g, hg⟩ := hok c hc
  exact Condition.selects_iff_holds hg

theorem compileFrom_respelled {ds : List Condition} (hds : List.Forall₂ Condition.Respells cs ds)
    {position : ℕ} (h : compileFrom position cs = .ok f) : compileFrom position ds = .ok f := by
  induction hds generalizing position f with
  | nil => exact h
  | cons hd _ ih =>
      obtain ⟨first, rest, hfirst, hrest, rfl⟩ := compileFrom_cons_eq_ok_iff.1 h
      exact compileFrom_cons_eq_ok_iff.2 ⟨first, rest, hd.compile hfirst, ih hrest, rfl⟩

/-- Compilation keeps the meaning of conditions: the store and the evaluation
together select the records of which all conditions hold, no residual ends in a
fault, and the spelling of equality makes no difference. -/
theorem compile_meaning (h : compile cs = .ok f) (r : Record) :
    (∃ keep, satisfiesAll r f.residuals = .ok keep) ∧
      ((r.satisfiesQuery f.query = true ∧ satisfiesAll r f.residuals = .ok true) ↔
        ∀ c ∈ cs, c.Holds r) ∧
      ∀ ds, List.Forall₂ Condition.Respells cs ds → compile ds = .ok f :=
  ⟨satisfiesAll_isOk_of_price r (residual_field_of_compile h),
    selects_compile_iff_holds h r, fun _ hds => compileFrom_respelled hds h⟩

/-- Three conditions, of which the first is tested after retrieval. -/
def offerConditions : List Condition :=
  [⟨"price", .less, .number (.finite false 0x4033800000000000)⟩,
    ⟨"tags", .notEqual, .text "used"⟩, ⟨"created_at", .greaterOrEqual, .text "2024-01-31"⟩]

def offerFilter : Filter :=
  ⟨⟨[⟨.tags, .notContains "used"⟩,
      ⟨.createdAt, .compare .ge (.text "2024-01-31T00:00:00.000Z")⟩]⟩,
    [⟨.price, .lt, .finite false 0x4033800000000000⟩]⟩

def offer : Record :=
  { id := 7, price := " 1.9e1 ", tags := ["new"], createdAt := some "2024-02-01T00:00:00.000Z" }

theorem offerConditions_hold :
    compile offerConditions = .ok offerFilter ∧ ∀ c ∈ offerConditions, c.Holds offer := by
  have h : compile offerConditions = .ok offerFilter := by decide +kernel
  obtain ⟨-, hiff, -⟩ := compile_meaning h offer
  exact ⟨h, hiff.1 ⟨by decide +kernel, by decide +kernel⟩⟩

end Filter

end CatalogRules
