import CatalogRules.Proofs.Filter.Compilation
import CatalogRules.Proofs.Traversal

/-!
Rejected conditions. Each condition is judged on its own, by its field, its operator and its
value in this order. So a list compiles to the parts of its conditions one after another, or
the first condition that is rejected is reported; of the conditions before it the report keeps
their number alone.
-/

namespace CatalogRules

namespace Condition

/-- The value is of the kind that a field takes. Every value has a text, and a date has to be
a timestamp for a range only. -/
def HasValueFor (c : Condition) : Field → Prop
  | .price | .id | .stockQuantity => ∃ x, c.value = .number x
  | .onSale => ∃ b, c.value = .boolean b
  | .createdAt => c.operator.isRange = true → ∃ t, Timestamp.read? c.value.canonical = some t
  | .stockStatus | .category | .tags | .title => True

/-- The condition is on the field, which accepts its operator and takes its value. -/
structure Accepted (c : Condition) (f : Field) : Prop where
  field : c.field = f.name
  operator : c.operator ∈ f.operators
  value : c.HasValueFor f

/-- The condition is rejected for the first of field, operator and value that is wrong. -/
inductive Rejected (c : Condition) : PolicyError → Prop
  | field (unknown : ∀ f : Field, c.field ≠ f.name) : Rejected c (.unknownField c.field)
  | operator {f : Field} (field : c.field = f.name) (refused : c.operator ∉ f.operators) :
      Rejected c (.unsupportedOperator c.field c.operator)
  | value {f : Field} (field : c.field = f.name) (operator : c.operator ∈ f.operators)
      (unfit : ¬c.HasValueFor f) : Rejected c (.unsuitableValue f c.value)

variable {c : Condition} {f : Field} {g : Filter} {e : PolicyError}

theorem Compiled.hasValueFor (h : Compiled c f g) : c.HasValueFor f := by
  cases h with
  | residual type value =>
      obtain rfl := Field.type_eq_textEncodedNumber_iff.1 type
      exact ⟨_, value⟩
  | number type value =>
      rcases Field.type_integer_or_number_iff.1 type with rfl | rfl <;> exact ⟨_, value⟩
  | text type =>
      rcases Field.type_text_or_enumeratedText_iff.1 type with rfl | rfl | rfl <;> trivial
  | contains type | notContains type =>
      obtain rfl := Field.type_eq_textSet_iff.1 type
      trivial
  | boolean type value =>
      obtain rfl := Field.type_eq_boolean_iff.1 type
      exact ⟨_, value⟩
  | date type value =>
      obtain rfl := Field.type_eq_date_iff.1 type
      obtain ⟨t, ht, -⟩ := Option.map_eq_some_iff.1 value
      exact fun _ => ⟨t, ht⟩
  | rawDate type value equality =>
      obtain rfl := Field.type_eq_date_iff.1 type
      intro hrange
      rw [equality] at hrange
      cases hrange

theorem exists_compiled (hop : c.operator ∈ f.operators) (h : c.HasValueFor f) :
    ∃ g, Compiled c f g := by
  cases f with
  | price =>
      obtain ⟨x, hx⟩ := h
      exact ⟨_, .residual rfl hx⟩
  | id =>
      obtain ⟨x, hx⟩ := h
      exact ⟨_, .number (.inr rfl) hx⟩
  | stockQuantity =>
      obtain ⟨x, hx⟩ := h
      exact ⟨_, .number (.inl rfl) hx⟩
  | stockStatus => exact ⟨_, .text (.inr rfl)⟩
  | category | title => exact ⟨_, .text (.inl rfl)⟩
  | tags =>
      -- Sets accept no operator but equality and difference.
      have hequality : ∀ op ∈ Field.tags.operators, op.comparison = .eq ∨ op.comparison = .ne := by
        decide
      rcases hequality _ hop with heq | hne
      · exact ⟨_, .contains rfl heq⟩
      · exact ⟨_, .notContains rfl hne⟩
  | onSale =>
      obtain ⟨b, hb⟩ := h
      exact ⟨_, .boolean rfl hb⟩
  | createdAt =>
      cases hnormal : Timestamp.normalize? c.value.canonical with
      | some normal => exact ⟨_, .date rfl hnormal⟩
      | none =>
          refine ⟨_, .rawDate rfl hnormal ?_⟩
          have hread : Timestamp.read? c.value.canonical = none := Option.map_eq_none_iff.1 hnormal
          rw [← Bool.not_eq_true]
          intro hrange
          obtain ⟨t, ht⟩ := h hrange
          rw [hread] at ht
          cases ht

theorem exists_compile_iff : (∃ g, c.compile = .ok g) ↔ ∃ f, c.Accepted f := by
  simp only [compile_eq_ok_iff]
  constructor
  · rintro ⟨g, f, hfield, hop, hcompiled⟩
    exact ⟨f, hfield, hop, hcompiled.hasValueFor⟩
  · rintro ⟨f, hfield, hop, hvalue⟩
    obtain ⟨g, hcompiled⟩ := exists_compiled hop hvalue
    exact ⟨g, f, hfield, hop, hcompiled⟩

theorem requireNumber_eq_error (h : ¬∃ x, c.value = .number x) :
    requireNumber f c = .error (.unsuitableValue f c.value) := by
  unfold requireNumber
  cases hvalue : c.value with
  | number x => exact absurd ⟨x, hvalue⟩ h
  | _ => rfl

theorem compile_of_unfit (hof : Field.ofCondition c = .ok f) (h : ¬c.HasValueFor f) :
    c.compile = .error (.unsuitableValue f c.value) := by
  have hclause (htested : f.isStoreTested = true)
      (herror : compileClause f c = .error (.unsuitableValue f c.value)) :
      c.compile = .error (.unsuitableValue f c.value) := by
    simp [compile, hof, htested, herror, bind, Except.bind]
  cases f with
  | price =>
      have hnumber := requireNumber_eq_error (f := .price) h
      simp [compile, hof, Field.isStoreTested, Field.type, hnumber, bind, Except.bind]
  | id | stockQuantity =>
      apply hclause rfl
      simp only [compileClause, Field.type, requireNumber_eq_error h]
      rfl
  | onSale =>
      apply hclause rfl
      simp only [compileClause, Field.type, compileBoolean]
      cases hvalue : c.value with
      | boolean b => exact absurd ⟨b, hvalue⟩ h
      | _ => rfl
  | createdAt =>
      rw [HasValueFor, Classical.not_imp, not_exists] at h
      have hnormal : Timestamp.normalize? c.value.canonical = none :=
        Option.map_eq_none_iff.2 (Option.eq_none_iff_forall_ne_some.2 h.2)
      apply hclause rfl
      simp only [compileClause, Field.type, compileDate, hnormal, h.1, if_true]
  | stockStatus | category | tags | title => exact absurd trivial h

theorem Rejected.compile (h : c.Rejected e) : c.compile = .error e := by
  cases h with
  | field unknown =>
      have hname : Field.ofName? c.field = none :=
        Option.eq_none_iff_forall_ne_some.2 fun f hf => unknown f (Field.ofName?_eq_some_iff.1 hf)
      simp [Condition.compile, Field.ofCondition, Field.lookup, hname, bind, Except.bind]
  | @operator f field refused =>
      simp [Condition.compile, Field.ofCondition, Field.lookup, field, refused, bind, Except.bind]
  | value field operator unfit =>
      exact compile_of_unfit (Field.ofCondition_eq_ok_iff.2 ⟨field, operator⟩) unfit

theorem accepted_or_rejected (c : Condition) : (∃ f, c.Accepted f) ∨ ∃ e, c.Rejected e := by
  by_cases hfield : ∃ f : Field, c.field = f.name
  · obtain ⟨f, hfield⟩ := hfield
    by_cases hop : c.operator ∈ f.operators
    · by_cases hvalue : c.HasValueFor f
      · exact .inl ⟨f, hfield, hop, hvalue⟩
      · exact .inr ⟨_, .value hfield hop hvalue⟩
    · exact .inr ⟨_, .operator hfield hop⟩
  · exact .inr ⟨_, .field fun f hf => hfield ⟨f, hf⟩⟩

theorem compile_eq_error_iff : c.compile = .error e ↔ c.Rejected e := by
  refine ⟨fun h => ?_, Rejected.compile⟩
  rcases c.accepted_or_rejected with haccepted | ⟨e', hrejected⟩
  · obtain ⟨g, hg⟩ := exists_compile_iff.2 haccepted
    rw [hg] at h
    cases h
  · have hsame := hrejected.compile
    rw [h] at hsame
    rwa [Except.error.inj hsame]

end Condition

namespace Filter

variable {a b cs : List Condition} {f fa fb : Filter} {e : CompileError} {position : Nat}

theorem compileFrom_of_compileFrom {position' : Nat} (h : compileFrom position cs = .ok f) :
    compileFrom position' cs = .ok f := by
  induction cs generalizing position position' f with
  | nil => exact h
  | cons c cs ih =>
      obtain ⟨first, rest, hfirst, hrest, rfl⟩ := compileFrom_cons_eq_ok_iff.1 h
      exact compileFrom_cons_eq_ok_iff.2 ⟨first, rest, hfirst, ih hrest, rfl⟩

theorem compileFrom_append (ha : compileFrom position a = .ok fa)
    (hb : compileFrom position b = .ok fb) : compileFrom position (a ++ b) = .ok (fa ++ fb) := by
  induction a generalizing position fa with
  | nil =>
      obtain rfl : empty = fa := by simpa [compileFrom] using ha
      exact hb
  | cons c a ih =>
      obtain ⟨first, rest, hfirst, hrest, rfl⟩ := compileFrom_cons_eq_ok_iff.1 ha
      rw [List.cons_append, append_assoc]
      exact compileFrom_cons_eq_ok_iff.2
        ⟨first, rest ++ fb, hfirst, ih hrest (compileFrom_of_compileFrom hb), rfl⟩

/-- The first condition that does not compile ends the compilation. -/
theorem compileFrom_of_split {before after : List Condition} {c : Condition} {cause : PolicyError}
    (hbefore : ∀ d ∈ before, ∃ g, d.compile = .ok g) (hc : c.compile = .error cause) :
    compileFrom position (before ++ c :: after) =
      .error ⟨position + before.length, c, cause⟩ := by
  induction before generalizing position with
  | nil => simp [compileFrom, hc]
  | cons d before ih =>
      rw [List.forall_mem_cons] at hbefore
      obtain ⟨⟨g, hg⟩, hbefore⟩ := hbefore
      rw [List.cons_append, compileFrom, hg]
      simp only [ih hbefore, List.length_cons, Nat.add_assoc, Nat.add_comm 1]

theorem exists_split_of_compileFrom (h : compileFrom position cs = .error e) :
    ∃ before after, cs = before ++ e.condition :: after ∧
      e.position = position + before.length ∧ (∀ c ∈ before, ∃ g, c.compile = .ok g) ∧
        e.condition.compile = .error e.cause := by
  rcases allOk_or_firstError Condition.compile cs with
    hall | ⟨before, c, after, cause, rfl, hbefore, hc⟩
  · have hok : ∃ f, compileFrom position cs = .ok f := compileFrom_isOk_iff.2 hall
    obtain ⟨f, hf⟩ := hok
    rw [hf] at h
    cases h
  · rw [compileFrom_of_split hbefore hc] at h
    obtain rfl := Except.error.inj h
    exact ⟨before, after, rfl, rfl, hbefore, hc⟩

def FirstRejected (cs : List Condition) (e : CompileError) : Prop :=
  ∃ before after, cs = before ++ e.condition :: after ∧ e.position = before.length + 1 ∧
    (∀ c ∈ before, ∃ f, c.Accepted f) ∧ e.condition.Rejected e.cause

theorem compile_eq_error_iff : compile cs = .error e ↔ FirstRejected cs e := by
  constructor
  · intro h
    obtain ⟨before, after, heq, hposition, hbefore, hcause⟩ := exists_split_of_compileFrom h
    exact ⟨before, after, heq, by rw [hposition, Nat.add_comm],
      fun c hc => Condition.exists_compile_iff.1 (hbefore c hc),
      Condition.compile_eq_error_iff.1 hcause⟩
  · rintro ⟨before, after, rfl, hposition, hbefore, hcause⟩
    rw [compile, compileFrom_of_split (fun c hc => Condition.exists_compile_iff.2 (hbefore c hc))
      hcause.compile, Nat.add_comm, ← hposition]

theorem accepted_of_compile (h : compile cs = .ok f) : ∀ c ∈ cs, ∃ field, c.Accepted field :=
  fun c hc => Condition.exists_compile_iff.1 (compile_isOk_iff.1 ⟨f, h⟩ c hc)

theorem FirstRejected.append (h : FirstRejected a e) (b : List Condition) :
    FirstRejected (a ++ b) e := by
  obtain ⟨before, after, rfl, hposition, hbefore, hcause⟩ := h
  exact ⟨before, after ++ b, by simp, hposition, hbefore, hcause⟩

theorem FirstRejected.append_left (ha : ∀ c ∈ a, ∃ f, c.Accepted f) (h : FirstRejected b e) :
    FirstRejected (a ++ b) { e with position := a.length + e.position } := by
  obtain ⟨before, after, rfl, hposition, hbefore, hcause⟩ := h
  refine ⟨a ++ before, after, by simp, ?_, ?_, hcause⟩
  · simp only [hposition, List.length_append]
    omega
  · exact List.forall_mem_append.2 ⟨ha, hbefore⟩

theorem exists_compile_singleton_iff {c : Condition} :
    (∃ f, compile [c] = .ok f) ↔ ∃ field, c.Accepted field := by
  rw [compile_isOk_iff, ← Condition.exists_compile_iff, List.forall_mem_singleton]

theorem firstRejected_singleton_iff {c : Condition} :
    FirstRejected [c] e ↔ e.position = 1 ∧ e.condition = c ∧ c.Rejected e.cause := by
  constructor
  · rintro ⟨before, after, heq, hposition, -, hcause⟩
    obtain ⟨rfl, hc, rfl⟩ : before = [] ∧ e.condition = c ∧ after = [] := by
      simpa [List.cons_eq_append_iff] using heq
    exact ⟨hposition, hc, hc ▸ hcause⟩
  · rintro ⟨hposition, rfl, hcause⟩
    exact ⟨[], [], rfl, hposition, by simp, hcause⟩

/-- Two lists after each other compile to the parts of the first and then those of the second,
and what is reported is the first condition that is rejected. A condition is accepted exactly if
the table has its field, the field accepts its operator and takes its value; it is rejected for
the first of these that fails. -/
theorem compile_in_turn (a b : List Condition) :
    (∀ fa fb, compile a = .ok fa → compile b = .ok fb →
      ∃ f, compile (a ++ b) = .ok f ∧ f.query.clauses = fa.query.clauses ++ fb.query.clauses ∧
        f.residuals = fa.residuals ++ fb.residuals ∧ f.count = a.length + b.length) ∧
    (∀ e, compile a = .error e → compile (a ++ b) = .error e) ∧
    (∀ fa e, compile a = .ok fa → compile b = .error e →
      compile (a ++ b) = .error { e with position := a.length + e.position }) ∧
    (∀ e, compile a = .error e ↔ FirstRejected a e) ∧
    (∀ c : Condition, (∃ f, compile [c] = .ok f) ↔ ∃ field, c.Accepted field) ∧
    ∀ (c : Condition) e,
      compile [c] = .error e ↔ e.position = 1 ∧ e.condition = c ∧ c.Rejected e.cause := by
  refine ⟨fun fa fb ha hb => ?_, fun e ha => ?_, fun fa e ha hb => ?_,
    fun e => compile_eq_error_iff, fun c => exists_compile_singleton_iff, fun c e => ?_⟩
  · have happend : compile (a ++ b) = .ok (fa ++ fb) := compileFrom_append ha hb
    refine ⟨fa ++ fb, happend, clauses_append fa fb, residuals_append fa fb, ?_⟩
    rw [count_of_compile happend, List.length_append]
  · exact compile_eq_error_iff.2 ((compile_eq_error_iff.1 ha).append b)
  · exact compile_eq_error_iff.2 ((compile_eq_error_iff.1 hb).append_left (accepted_of_compile ha))
  · rw [compile_eq_error_iff, firstRejected_singleton_iff]

end Filter

end CatalogRules
