import CatalogRules.Proofs.Filter.Selection
import CatalogRules.Proofs.Rule.Display

/-!
The form of compiled filters. Each clause has a predicate that fits the type of its field, the
price has none, and residuals are on the price alone. So no record makes the store compare
values of different kinds or put a list in an order, and none makes the evaluation fault.
-/

namespace CatalogRules

inductive Clause.WellTyped : Clause → Prop
  | number {f : Field} (field : f = .id ∨ f = .stockQuantity) (c : Comparison) (x : Binary64) :
      WellTyped ⟨f, .compare c (.number x)⟩
  | text {f : Field} (field : f = .stockStatus ∨ f = .category ∨ f = .title) {c : Comparison}
      (equality : c = .eq ∨ c = .ne) (text : String) : WellTyped ⟨f, .compare c (.text text)⟩
  | contains (text : String) : WellTyped ⟨.tags, .contains text⟩
  | notContains (text : String) : WellTyped ⟨.tags, .notContains text⟩
  | boolean (b : Bool) : WellTyped ⟨.onSale, .compare .eq (.boolean b)⟩
  /-- Only timestamps in canonical form are put in an order. -/
  | date {c : Comparison} {text : String}
      (range : c ≠ .eq → c ≠ .ne → ∃ raw, Timestamp.normalize? raw = some text) :
      WellTyped ⟨.createdAt, .compare c (.text text)⟩

theorem Clause.WellTyped.field_ne_price {clause : Clause} (h : clause.WellTyped) :
    clause.field ≠ .price := by
  cases h with
  | number field => rcases field with rfl | rfl <;> simp
  | text field => rcases field with rfl | rfl | rfl <;> simp
  | _ => simp

/-- A comparison of what is of one kind, and of a list with a text for equality and difference
only. Every other comparison has no answer here. -/
def Stored.compareAlike? (stored : Stored) (c : Comparison) (operand : Value) : Option Bool :=
  match stored, operand with
  | absent, _ => some (c = .ne)
  | text s, .text t => some (c.holds (some (Text.compareTexts s t)))
  | integer i, .number x => some (compareInteger i c x)
  | boolean a, .boolean b => some (c.holds (some (Ord.compare a b)))
  | list values, .text t =>
    match c with
    | .eq => some (values.contains t)
    | .ne => some (!values.contains t)
    | _ => none
  | _, _ => none

/-- What has no answer within one kind is taken to be different. -/
theorem Stored.compare_eq_getD (stored : Stored) (c : Comparison) (operand : Value) :
    stored.compare c operand = (stored.compareAlike? c operand).getD (c = .ne) := by
  cases stored with
  | absent => rfl
  | list values =>
      cases operand with
      | text t => cases c <;> rfl
      | _ => rfl
  | _ => cases operand <;> rfl

def Record.satisfiesClauseAlike? (r : Record) (clause : Clause) : Option Bool :=
  match clause.predicate with
  | .compare c operand => (r.stored clause.field).compareAlike? c operand
  | .contains text => some ((r.stored clause.field).contains text)
  | .notContains text => some (!(r.stored clause.field).contains text)

theorem Stored.compareAlike?_ofText? (stored : Option String) (c : Comparison) (t : String) :
    ∃ answer, (ofText? stored).compareAlike? c (.text t) = some answer := by
  cases stored <;> exact ⟨_, rfl⟩

/-- A clause that fits its field is answered within one kind, whatever the record. -/
theorem Clause.WellTyped.exists_answer {clause : Clause} (h : clause.WellTyped) (r : Record) :
    ∃ answer, r.satisfiesClauseAlike? clause = some answer := by
  cases h with
  | number field c x =>
      rcases field with rfl | rfl
      · exact ⟨_, rfl⟩
      · simp only [Record.satisfiesClauseAlike?, Record.stored]
        cases r.stockQuantity <;> exact ⟨_, rfl⟩
  | text field equality t =>
      rcases field with rfl | rfl | rfl
      · exact Stored.compareAlike?_ofText? r.stockStatus _ t
      · exact Stored.compareAlike?_ofText? r.category _ t
      · exact ⟨_, rfl⟩
  | contains | notContains => exact ⟨_, rfl⟩
  | boolean b => exact ⟨_, rfl⟩
  | date range => exact Stored.compareAlike?_ofText? r.createdAt _ _

theorem Record.satisfiesClause_of_alike {r : Record} {clause : Clause} {answer : Bool}
    (h : r.satisfiesClauseAlike? clause = some answer) : r.satisfiesClause clause = answer := by
  obtain ⟨field, predicate⟩ := clause
  cases predicate with
  | compare c operand =>
      have hcompare : (r.stored field).compareAlike? c operand = some answer := h
      rw [satisfiesClause, satisfiesPredicate, Stored.compare_eq_getD, hcompare]
      rfl
  | contains text => exact Option.some.inj h
  | notContains text => exact Option.some.inj h

def Predicate.number? : Predicate → Option Binary64
  | compare _ (.number x) => some x
  | _ => none

def Filter.numbers (f : Filter) : List Binary64 :=
  f.query.clauses.filterMap (fun clause => clause.predicate.number?) ++
    f.residuals.map Residual.operand

theorem Filter.mem_numbers_append {f g : Filter} {x : Binary64} :
    x ∈ (f ++ g).numbers ↔ x ∈ f.numbers ∨ x ∈ g.numbers := by
  simp only [numbers, clauses_append, residuals_append, List.filterMap_append, List.map_append,
    List.mem_append]
  tauto

namespace Operator

variable {op : Operator} {f : Field}

theorem comparison_of_isRange_eq_false (h : op.isRange = false) :
    op.comparison = .eq ∨ op.comparison = .ne := by
  cases op <;> simp [isRange, isEquality, comparison] at h ⊢

theorem comparison_of_text (htype : f.type = .text ∨ f.type = .enumeratedText)
    (hop : op ∈ f.operators) : op.comparison = .eq ∨ op.comparison = .ne := by
  apply comparison_of_isRange_eq_false
  rcases htype with htype | htype <;> rw [Field.operators, htype] at hop <;> revert op <;> decide

theorem comparison_of_boolean (htype : f.type = .boolean) (hop : op ∈ f.operators) :
    op.comparison = .eq := by
  rw [Field.operators, htype] at hop
  revert op
  decide

end Operator

namespace Condition

variable {c : Condition} {f : Field} {g : Filter}

theorem Compiled.clause_wellTyped (hop : c.operator ∈ f.operators) (h : Compiled c f g) :
    ∀ clause ∈ g.query.clauses, clause.WellTyped := by
  intro clause hclause
  cases h with
  | residual type value => cases hclause
  | number type value =>
      obtain rfl := List.mem_singleton.1 hclause
      exact .number (Field.type_integer_or_number_iff.1 type) _ _
  | text type =>
      obtain rfl := List.mem_singleton.1 hclause
      exact .text (Field.type_text_or_enumeratedText_iff.1 type)
        (Operator.comparison_of_text type hop) _
  | contains type =>
      obtain rfl := List.mem_singleton.1 hclause
      obtain rfl := Field.type_eq_textSet_iff.1 type
      exact .contains _
  | notContains type =>
      obtain rfl := List.mem_singleton.1 hclause
      obtain rfl := Field.type_eq_textSet_iff.1 type
      exact .notContains _
  | boolean type value =>
      obtain rfl := List.mem_singleton.1 hclause
      obtain rfl := Field.type_eq_boolean_iff.1 type
      rw [Operator.comparison_of_boolean rfl hop]
      exact .boolean _
  | date type value =>
      obtain rfl := List.mem_singleton.1 hclause
      obtain rfl := Field.type_eq_date_iff.1 type
      exact .date fun _ _ => ⟨_, value⟩
  | rawDate type value equality =>
      obtain rfl := List.mem_singleton.1 hclause
      obtain rfl := Field.type_eq_date_iff.1 type
      -- A text that is no timestamp is never put in an order.
      rcases Operator.comparison_of_isRange_eq_false equality with heq | hne
      · exact .date fun h _ => absurd heq h
      · exact .date fun _ h => absurd hne h

theorem Compiled.value_of_mem_numbers (h : Compiled c f g) {x : Binary64} (hx : x ∈ g.numbers) :
    c.value = .number x := by
  cases h with
  | residual type value => rwa [List.mem_singleton.1 hx]
  | number type value => rwa [List.mem_singleton.1 hx]
  | _ => cases hx

theorem isFinite_of_parse {line : String} (h : parse line = .ok c) {x : Binary64}
    (hx : c.value = .number x) : x.isFinite = true := by
  obtain ⟨left, op, right, -, rfl⟩ := parse_eq_ok_iff.1 h
  rcases Value.ofChars_cases (Text.trimChars right) with ⟨b, hb⟩ | ⟨y, hy, hnumber⟩ | ⟨cs, -, hcs⟩
  · rw [ofParts, hb] at hx
    cases hx
  · rw [ofParts, hnumber] at hx
    cases hx
    exact hy
  · rw [ofParts, hcs] at hx
    cases hx

end Condition

namespace Filter

variable {cs : List Condition} {f : Filter}

theorem clause_wellTyped_of_compile (h : compile cs = .ok f) :
    ∀ clause ∈ f.query.clauses, clause.WellTyped := by
  apply compileFrom_induction (motive := fun f => ∀ clause ∈ f.query.clauses, clause.WellTyped)
    ?_ ?_ ?_ h
  · simp [empty]
  · intro f g hf hg
    rw [clauses_append, List.forall_mem_append]
    exact ⟨hf, hg⟩
  · intro c _ g hg
    obtain ⟨field, -, hop, hcompiled⟩ := Condition.compile_eq_ok_iff.1 hg
    exact hcompiled.clause_wellTyped hop

theorem value_of_mem_numbers (h : compile cs = .ok f) :
    ∀ x ∈ f.numbers, ∃ c ∈ cs, c.value = .number x := by
  apply compileFrom_induction (motive := fun f => ∀ x ∈ f.numbers, ∃ c ∈ cs, c.value = .number x)
    ?_ ?_ ?_ h
  · simp [numbers, empty]
  · intro f g hf hg x hx
    exact (mem_numbers_append.1 hx).elim (hf x) (hg x)
  · intro c hc g hg x hx
    obtain ⟨field, -, -, hcompiled⟩ := Condition.compile_eq_ok_iff.1 hg
    exact ⟨c, hc, hcompiled.value_of_mem_numbers hx⟩

theorem number_isFinite_of_compile (hparsed : ∀ c ∈ cs, ∃ line, Condition.parse line = .ok c)
    (h : compile cs = .ok f) : ∀ x ∈ f.numbers, x.isFinite = true := by
  intro x hx
  obtain ⟨c, hc, hvalue⟩ := value_of_mem_numbers h x hx
  obtain ⟨line, hline⟩ := hparsed c hc
  exact Condition.isFinite_of_parse hline hvalue

/-- A compiled filter compares each field as its type allows, and the price after retrieval
only; if the conditions were read from lines, its numbers are finite. So on every record the
residuals are tested to the end, and every clause is answered by a comparison within one
kind. -/
theorem compile_wellTyped (h : compile cs = .ok f) :
    (∀ residual ∈ f.residuals, residual.field = .price) ∧
    (∀ clause ∈ f.query.clauses, clause.WellTyped ∧ clause.field ≠ .price) ∧
    ((∀ c ∈ cs, ∃ line, Condition.parse line = .ok c) → ∀ x ∈ f.numbers, x.isFinite = true) ∧
    ∀ r : Record, (∃ keep, Evaluation.satisfiesAll r f.residuals = .ok keep) ∧
      ∀ clause ∈ f.query.clauses,
        r.satisfiesClauseAlike? clause = some (r.satisfiesClause clause) := by
  have hprice := residual_field_of_compile h
  have htyped := clause_wellTyped_of_compile h
  refine ⟨hprice, fun clause hclause => ?_, fun hparsed => ?_, fun r => ⟨?_, ?_⟩⟩
  · exact ⟨htyped clause hclause, (htyped clause hclause).field_ne_price⟩
  · exact number_isFinite_of_compile hparsed h
  · exact Evaluation.satisfiesAll_isOk_of_price r hprice
  · intro clause hclause
    obtain ⟨answer, hanswer⟩ := (htyped clause hclause).exists_answer r
    rw [hanswer, Record.satisfiesClause_of_alike hanswer]

/-- Conditions of four types, as they stand in lines. -/
def seasonLines : List String :=
  ["price < 20", "stock_quantity >= 3", "tags != used", "created_at > 2024-01-31"]

def seasonConditions : List Condition :=
  [⟨"price", .less, .number (.ofInt 20)⟩, ⟨"stock_quantity", .greaterOrEqual, .number (.ofInt 3)⟩,
    ⟨"tags", .notEqual, .text "used"⟩, ⟨"created_at", .greater, .text "2024-01-31"⟩]

def seasonFilter : Filter :=
  ⟨⟨[⟨.stockQuantity, .compare .ge (.number (.ofInt 3))⟩,
      ⟨.tags, .notContains "used"⟩,
      ⟨.createdAt, .compare .gt (.text "2024-01-31T00:00:00.000Z")⟩]⟩,
    [⟨.price, .lt, .ofInt 20⟩]⟩

/-- A record without a date or a quantity is answered like any other. -/
theorem seasonFilter_wellTyped :
    compile seasonConditions = .ok seasonFilter ∧
      (∀ c ∈ seasonConditions, ∃ line ∈ seasonLines, Condition.parse line = .ok c) ∧
      (∀ clause ∈ seasonFilter.query.clauses, clause.WellTyped) ∧
      (∀ x ∈ seasonFilter.numbers, x.isFinite = true) ∧
      ∀ clause ∈ seasonFilter.query.clauses,
        Record.satisfiesClauseAlike? { id := 1 } clause =
          some (Record.satisfiesClause { id := 1 } clause) := by
  have h : compile seasonConditions = .ok seasonFilter := by decide +kernel
  have hparsed : ∀ c ∈ seasonConditions, ∃ line ∈ seasonLines, Condition.parse line = .ok c := by
    decide +kernel
  obtain ⟨-, hclauses, hfinite, hanswered⟩ := compile_wellTyped h
  refine ⟨h, hparsed, fun clause hclause => (hclauses clause hclause).1, ?_,
    (hanswered { id := 1 }).2⟩
  apply hfinite
  intro c hc
  obtain ⟨line, -, hline⟩ := hparsed c hc
  exact ⟨line, hline⟩

end Filter

end CatalogRules
