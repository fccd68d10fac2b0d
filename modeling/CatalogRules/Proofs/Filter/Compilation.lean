import CatalogRules.Filter.Compile

/-!
What compilation accepts and what it makes of it. One condition becomes one
clause or one residual, whose form is fixed by the type of the field; a list of
conditions becomes the parts of its conditions one after another, so a list
compiles exactly when each of its conditions does.
-/

namespace CatalogRules

namespace Field

theorem name_injective {f g : Field} (h : f.name = g.name) : f = g := by
  have hname := congrArg ofName? h
  rw [ofName?_name, ofName?_name] at hname
  exact Option.some.inj hname

theorem ofName?_eq_some_iff {name : String} {f : Field} :
    ofName? name = some f ↔ name = f.name := by
  constructor
  · intro h
    have hname := List.find?_some h
    exact (beq_iff_eq.1 hname).symm
  · rintro rfl
    exact ofName?_name f

theorem ofCondition_eq_ok_iff {c : Condition} {f : Field} :
    ofCondition c = .ok f ↔ c.field = f.name ∧ c.operator ∈ f.operators := by
  unfold ofCondition lookup
  cases h : ofName? c.field with
  | none =>
      have hne : c.field ≠ f.name := by
        intro heq
        rw [heq, ofName?_name] at h
        cases h
      simp [hne]
  | some g =>
      have hg := ofName?_eq_some_iff.1 h
      rw [hg]
      by_cases hop : c.operator ∈ g.operators
      · simp only [hop, if_true, Except.ok.injEq]
        constructor
        · rintro rfl
          exact ⟨rfl, hop⟩
        · exact fun hf => name_injective hf.1
      · simp only [hop, if_false, reduceCtorEq, false_iff]
        rintro ⟨hname, hmem⟩
        rw [← name_injective hname] at hmem
        exact hop hmem

theorem equal_mem_operators (f : Field) : .equal ∈ f.operators := by
  cases f <;> decide

theorem doubleEqual_mem_operators (f : Field) : .doubleEqual ∈ f.operators := by
  cases f <;> decide

variable {f : Field}

/-! Most types have one field only. -/

theorem type_eq_textEncodedNumber_iff : f.type = .textEncodedNumber ↔ f = .price := by
  cases f <;> decide

theorem type_eq_textSet_iff : f.type = .textSet ↔ f = .tags := by
  cases f <;> decide

theorem type_eq_boolean_iff : f.type = .boolean ↔ f = .onSale := by
  cases f <;> decide

theorem type_eq_date_iff : f.type = .date ↔ f = .createdAt := by
  cases f <;> decide

theorem type_integer_or_number_iff :
    f.type = .integer ∨ f.type = .number ↔ f = .id ∨ f = .stockQuantity := by
  cases f <;> decide

theorem type_text_or_enumeratedText_iff :
    f.type = .text ∨ f.type = .enumeratedText ↔
      f = .stockStatus ∨ f = .category ∨ f = .title := by
  cases f <;> decide

end Field

namespace Condition

/-- The part of a filter that a condition on a field becomes. -/
inductive Compiled (c : Condition) : Field → Filter → Prop
  | residual {f : Field} {x : Binary64} (type : f.type = .textEncodedNumber)
      (value : c.value = .number x) :
      Compiled c f (.ofResidual ⟨f, c.operator.comparison, x⟩)
  | number {f : Field} {x : Binary64} (type : f.type = .integer ∨ f.type = .number)
      (value : c.value = .number x) :
      Compiled c f (.ofClause ⟨f, .compare c.operator.comparison (.number x)⟩)
  | text {f : Field} (type : f.type = .text ∨ f.type = .enumeratedText) :
      Compiled c f (.ofClause ⟨f, .compare c.operator.comparison (.text c.value.canonical)⟩)
  | contains {f : Field} (type : f.type = .textSet) (comparison : c.operator.comparison = .eq) :
      Compiled c f (.ofClause ⟨f, .contains c.value.canonical⟩)
  | notContains {f : Field} (type : f.type = .textSet) (comparison : c.operator.comparison = .ne) :
      Compiled c f (.ofClause ⟨f, .notContains c.value.canonical⟩)
  | boolean {f : Field} {b : Bool} (type : f.type = .boolean) (value : c.value = .boolean b) :
      Compiled c f (.ofClause ⟨f, .compare c.operator.comparison (.boolean b)⟩)
  | date {f : Field} {normal : String} (type : f.type = .date)
      (value : Timestamp.normalize? c.value.canonical = some normal) :
      Compiled c f (.ofClause ⟨f, .compare c.operator.comparison (.text normal)⟩)
  | rawDate {f : Field} (type : f.type = .date)
      (value : Timestamp.normalize? c.value.canonical = none)
      (equality : c.operator.isRange = false) :
      Compiled c f (.ofClause ⟨f, .compare c.operator.comparison (.text c.value.canonical)⟩)

variable {c : Condition} {f : Field} {g : Filter}

theorem requireNumber_eq_ok_iff {x : Binary64} :
    requireNumber f c = .ok x ↔ c.value = .number x := by
  unfold requireNumber
  cases c.value <;> simp [Value.asNumber?]

theorem compileBoolean_eq_ok_iff {clause : Clause} :
    compileBoolean f c = .ok clause ↔
      ∃ b, c.value = .boolean b ∧ clause = ⟨f, .compare c.operator.comparison (.boolean b)⟩ := by
  unfold compileBoolean
  cases c.value <;> simp [Value.asBoolean?, eq_comm]

theorem compileSet_eq_ok_iff {clause : Clause} :
    compileSet f c = .ok clause ↔
      c.operator.comparison = .eq ∧ clause = ⟨f, .contains c.value.canonical⟩ ∨
        c.operator.comparison = .ne ∧ clause = ⟨f, .notContains c.value.canonical⟩ := by
  unfold compileSet
  cases c.operator.comparison <;> simp [eq_comm]

theorem compileDate_eq_ok_iff {clause : Clause} :
    compileDate f c = .ok clause ↔
      (∃ normal, Timestamp.normalize? c.value.canonical = some normal ∧
        clause = ⟨f, .compare c.operator.comparison (.text normal)⟩) ∨
      Timestamp.normalize? c.value.canonical = none ∧ c.operator.isRange = false ∧
        clause = ⟨f, .compare c.operator.comparison (.text c.value.canonical)⟩ := by
  simp only [compileDate]
  cases Timestamp.normalize? c.value.canonical with
  | some normal =>
      constructor
      · exact fun h => .inl ⟨normal, rfl, (Except.ok.inj h).symm⟩
      · rintro (⟨n, hn, rfl⟩ | ⟨hn, -⟩)
        · rw [Option.some.inj hn]
        · cases hn
  | none =>
      cases c.operator.isRange with
      | true => simp
      | false =>
          constructor
          · exact fun h => .inr ⟨rfl, rfl, (Except.ok.inj h).symm⟩
          · rintro (⟨n, hn, -⟩ | ⟨-, -, rfl⟩)
            · cases hn
            · rfl

theorem compiled_of_compileClause {clause : Clause} (hf : f.isStoreTested = true)
    (h : compileClause f c = .ok clause) : Compiled c f (.ofClause clause) := by
  unfold compileClause at h
  cases htype : f.type with
  | textEncodedNumber => simp [Field.isStoreTested, htype] at hf
  | integer | number =>
      rw [htype] at h
      cases hx : requireNumber f c with
      | error e => simp [hx, bind, Except.bind] at h
      | ok x =>
          simp only [hx, bind, Except.bind, pure, Except.pure, Except.ok.injEq] at h
          subst clause
          exact .number (by simp [htype]) (requireNumber_eq_ok_iff.1 hx)
  | text | enumeratedText =>
      simp only [htype, Except.ok.injEq] at h
      subst clause
      exact .text (by simp [htype])
  | textSet =>
      simp only [htype] at h
      rcases compileSet_eq_ok_iff.1 h with ⟨hop, rfl⟩ | ⟨hop, rfl⟩
      · exact .contains htype hop
      · exact .notContains htype hop
  | boolean =>
      simp only [htype] at h
      obtain ⟨b, hb, rfl⟩ := compileBoolean_eq_ok_iff.1 h
      exact .boolean htype hb
  | date =>
      simp only [htype] at h
      rcases compileDate_eq_ok_iff.1 h with ⟨normal, hnormal, rfl⟩ | ⟨hnone, hop, rfl⟩
      · exact .date htype hnormal
      · exact .rawDate htype hnone hop

theorem compile_of_compileClause {clause : Clause} (hof : Field.ofCondition c = .ok f)
    (htested : f.isStoreTested = true) (h : compileClause f c = .ok clause) :
    c.compile = .ok (.ofClause clause) := by
  simp [compile, hof, htested, h, bind, Except.bind, pure, Except.pure]

theorem compile_of_compiled (hfield : c.field = f.name) (hop : c.operator ∈ f.operators)
    (h : Compiled c f g) : c.compile = .ok g := by
  have hof : Field.ofCondition c = .ok f := Field.ofCondition_eq_ok_iff.2 ⟨hfield, hop⟩
  have htested (h : f.type ≠ .textEncodedNumber) : f.isStoreTested = true := by
    simpa [Field.isStoreTested] using h
  cases h with
  | residual type value =>
      simp [compile, hof, bind, Except.bind, pure, Except.pure, Field.isStoreTested, type,
        requireNumber_eq_ok_iff.2 value]
  | number type value =>
      have hx := requireNumber_eq_ok_iff (f := f).2 value
      apply compile_of_compileClause hof (htested (by rcases type with type | type <;> simp [type]))
      rcases type with type | type <;> simp only [compileClause, type, hx] <;> rfl
  | text type =>
      apply compile_of_compileClause hof (htested (by rcases type with type | type <;> simp [type]))
      rcases type with type | type <;> simp only [compileClause, type]
  | contains type comparison =>
      apply compile_of_compileClause hof (htested (by simp [type]))
      simp only [compileClause, type]
      exact compileSet_eq_ok_iff.2 (.inl ⟨comparison, rfl⟩)
  | notContains type comparison =>
      apply compile_of_compileClause hof (htested (by simp [type]))
      simp only [compileClause, type]
      exact compileSet_eq_ok_iff.2 (.inr ⟨comparison, rfl⟩)
  | boolean type value =>
      apply compile_of_compileClause hof (htested (by simp [type]))
      simp only [compileClause, type]
      exact compileBoolean_eq_ok_iff.2 ⟨_, value, rfl⟩
  | date type value =>
      apply compile_of_compileClause hof (htested (by simp [type]))
      simp only [compileClause, type]
      exact compileDate_eq_ok_iff.2 (.inl ⟨_, value, rfl⟩)
  | rawDate type value equality =>
      apply compile_of_compileClause hof (htested (by simp [type]))
      simp only [compileClause, type]
      exact compileDate_eq_ok_iff.2 (.inr ⟨value, equality, rfl⟩)

/-- A condition compiles exactly when the table has its field, the field accepts
its operator, and its value has one of the forms that the type of the field has. -/
theorem compile_eq_ok_iff :
    c.compile = .ok g ↔
      ∃ f : Field, c.field = f.name ∧ c.operator ∈ f.operators ∧ Compiled c f g := by
  constructor
  · intro h
    cases hof : Field.ofCondition c with
    | error e => simp [compile, hof, bind, Except.bind] at h
    | ok f =>
        obtain ⟨hfield, hop⟩ := Field.ofCondition_eq_ok_iff.1 hof
        refine ⟨f, hfield, hop, ?_⟩
        -- The store tests all fields but those that keep a number as text.
        simp only [compile, hof, bind, Except.bind, pure, Except.pure] at h
        by_cases htested : f.isStoreTested = true
        · rw [if_pos htested] at h
          cases hclause : compileClause f c with
          | error e => simp [hclause] at h
          | ok clause =>
              simp only [hclause, Except.ok.injEq] at h
              subst g
              exact compiled_of_compileClause htested hclause
        · rw [if_neg htested] at h
          cases hx : requireNumber f c with
          | error e => simp [hx] at h
          | ok x =>
              simp only [hx, Except.ok.injEq] at h
              subst g
              have htype : f.type = .textEncodedNumber := by
                simpa [Field.isStoreTested] using htested
              exact .residual htype (requireNumber_eq_ok_iff.1 hx)
  · rintro ⟨f, hfield, hop, hcompiled⟩
    exact compile_of_compiled hfield hop hcompiled

theorem Compiled.count_eq (h : Compiled c f g) : g.count = 1 := by
  cases h <;> rfl

theorem Compiled.residual_field (h : Compiled c f g) : ∀ r ∈ g.residuals, r.field = .price := by
  cases h with
  | residual type value =>
      intro r hr
      obtain rfl : r = ⟨f, c.operator.comparison, _⟩ := List.mem_singleton.1 hr
      exact Field.type_eq_textEncodedNumber_iff.1 type
  | _ => simp [Filter.ofClause]

/-- The conditions are one another up to the spelling of equality. -/
structure Respells (c d : Condition) : Prop where
  field : d.field = c.field
  value : d.value = c.value
  operator : d.operator = c.operator ∨
    c.operator ∈ [.equal, .doubleEqual] ∧ d.operator ∈ [.equal, .doubleEqual]

theorem Respells.comparison {d : Condition} (h : Respells c d) :
    d.operator.comparison = c.operator.comparison := by
  rcases h.operator with hop | ⟨hc, hd⟩
  · rw [hop]
  · have heq : ∀ op ∈ [Operator.equal, .doubleEqual], op.comparison = .eq := by decide
    rw [heq _ hc, heq _ hd]

theorem Respells.mem_operators {d : Condition} (h : Respells c d)
    (hop : c.operator ∈ f.operators) : d.operator ∈ f.operators := by
  rcases h.operator with heq | ⟨-, hd⟩
  · rwa [heq]
  · have hmem : ∀ op ∈ [Operator.equal, .doubleEqual], op ∈ f.operators := by
      simpa using ⟨f.equal_mem_operators, f.doubleEqual_mem_operators⟩
    exact hmem _ hd

theorem Respells.compiled {d : Condition} (h : Respells c d) (hc : Compiled c f g) :
    Compiled d f g := by
  have hrange : d.operator.isRange = c.operator.isRange := by
    simp only [Operator.isRange, Operator.isEquality, h.comparison]
  cases hc with
  | residual type value =>
      rw [← h.comparison]
      exact .residual type (h.value.trans value)
  | number type value =>
      rw [← h.comparison]
      exact .number type (h.value.trans value)
  | text type =>
      rw [← h.comparison, ← h.value]
      exact .text type
  | contains type comparison =>
      rw [← h.value]
      exact .contains type (h.comparison.trans comparison)
  | notContains type comparison =>
      rw [← h.value]
      exact .notContains type (h.comparison.trans comparison)
  | boolean type value =>
      rw [← h.comparison]
      exact .boolean type (h.value.trans value)
  | date type value =>
      rw [← h.comparison]
      exact .date type (h.value ▸ value)
  | rawDate type value equality =>
      rw [← h.comparison, ← h.value]
      exact .rawDate type (h.value ▸ value) (hrange.trans equality)

theorem Respells.compile {d : Condition} (h : Respells c d) (hc : c.compile = .ok g) :
    d.compile = .ok g := by
  obtain ⟨f, hfield, hop, hcompiled⟩ := compile_eq_ok_iff.1 hc
  exact compile_of_compiled (h.field.trans hfield) (h.mem_operators hop) (h.compiled hcompiled)

end Condition

namespace Filter

variable {cs : List Condition} {f : Filter} {position : Nat}

theorem compileFrom_cons_eq_ok_iff {c : Condition} :
    compileFrom position (c :: cs) = .ok f ↔
      ∃ first rest, c.compile = .ok first ∧ compileFrom (position + 1) cs = .ok rest ∧
        f = first ++ rest := by
  rw [compileFrom]
  cases c.compile with
  | error e => simp
  | ok first =>
      cases compileFrom (position + 1) cs with
      | error e => simp
      | ok rest => simp [eq_comm]

theorem compileFrom_isOk_iff :
    (∃ f, compileFrom position cs = .ok f) ↔ ∀ c ∈ cs, ∃ g, c.compile = .ok g := by
  induction cs generalizing position with
  | nil => simp [compileFrom]
  | cons c cs ih =>
      rw [List.forall_mem_cons, ← @ih (position + 1)]
      constructor
      · rintro ⟨f, hf⟩
        obtain ⟨first, rest, hfirst, hrest, -⟩ := compileFrom_cons_eq_ok_iff.1 hf
        exact ⟨⟨first, hfirst⟩, rest, hrest⟩
      · rintro ⟨⟨first, hfirst⟩, rest, hrest⟩
        exact ⟨first ++ rest, compileFrom_cons_eq_ok_iff.2 ⟨first, rest, hfirst, hrest, rfl⟩⟩

theorem compile_isOk_iff : (∃ f, compile cs = .ok f) ↔ ∀ c ∈ cs, ∃ g, c.compile = .ok g :=
  compileFrom_isOk_iff

theorem count_of_compileFrom (h : compileFrom position cs = .ok f) : f.count = cs.length := by
  induction cs generalizing position f with
  | nil =>
      obtain rfl : empty = f := by simpa [compileFrom] using h
      rfl
  | cons c cs ih =>
      obtain ⟨first, rest, hfirst, hrest, rfl⟩ := compileFrom_cons_eq_ok_iff.1 h
      obtain ⟨field, -, -, hcompiled⟩ := Condition.compile_eq_ok_iff.1 hfirst
      rw [count_append, hcompiled.count_eq, ih hrest, List.length_cons, Nat.add_comm]

/-- No condition is lost and none is counted twice. -/
theorem count_of_compile (h : compile cs = .ok f) : f.count = cs.length :=
  count_of_compileFrom h

/-- What holds of the parts that the conditions become holds of the whole filter. -/
theorem compileFrom_induction {motive : Filter → Prop} (empty : motive empty)
    (append : ∀ f g, motive f → motive g → motive (f ++ g))
    (part : ∀ c ∈ cs, ∀ g, c.compile = .ok g → motive g) (h : compileFrom position cs = .ok f) :
    motive f := by
  induction cs generalizing position f with
  | nil =>
      obtain rfl : Filter.empty = f := by simpa [compileFrom] using h
      exact empty
  | cons c cs ih =>
      obtain ⟨first, rest, hfirst, hrest, rfl⟩ := compileFrom_cons_eq_ok_iff.1 h
      rw [List.forall_mem_cons] at part
      exact append _ _ (part.1 _ hfirst) (ih part.2 hrest)

/-- Only prices are compared after retrieval. -/
theorem residual_field_of_compile (h : compile cs = .ok f) :
    ∀ r ∈ f.residuals, r.field = .price := by
  apply compileFrom_induction (motive := fun f => ∀ r ∈ f.residuals, r.field = .price) ?_ ?_ ?_ h
  · simp [empty]
  · intro f g hf hg
    rw [residuals_append, List.forall_mem_append]
    exact ⟨hf, hg⟩
  · intro c _ g hg
    obtain ⟨field, -, -, hcompiled⟩ := Condition.compile_eq_ok_iff.1 hg
    exact hcompiled.residual_field

end Filter

end CatalogRules
