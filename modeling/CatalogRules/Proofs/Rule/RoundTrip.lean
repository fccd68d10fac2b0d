import CatalogRules.Filter.Codec
import CatalogRules.Proofs.Filter.Typing
import CatalogRules.Proofs.Json.Decoding
import CatalogRules.Proofs.Json.Numbers
import CatalogRules.Proofs.Rule.Precedence

/-!
Conditions and filters through their JSON forms. An untagged value is decoded by the kind of the
JSON value, a predicate by its tag, an operator by its spelling, so that each decodes to what was
written. The numbers that are written are those of the conditions, and they are finite. So a rule
set is read back from its documents, in either form, as far as its numbers are.
-/

namespace CatalogRules

open Binary64 (dataLayout)
open Json.Decode

theorem Value.decode_readsBack : Value.decode.ReadsBack Value.toJson := by
  intro v
  cases v <;> simp [toJson, Json.ofFloat, Json.Draft.ofJson, decode]

theorem Operator.decode_readsBack : Operator.decode.ReadsBack fun op => .string op.token :=
  named_readsBack Operator.ofToken?_token _

theorem Comparison.ofName?_name (c : Comparison) : ofName? c.name = some c := by
  cases c <;> decide

theorem Comparison.decode_readsBack : Comparison.decode.ReadsBack fun c => .string c.name :=
  named_readsBack ofName?_name _

theorem Field.decode_readsBack : Field.decode.ReadsBack fun f => .string f.name :=
  named_readsBack Field.ofName?_name _

theorem Condition.decode_readsBack : Condition.decode.ReadsBack Condition.toJson := by
  intro c
  have hfield := text_readsBack c.field
  have hoperator := Operator.decode_readsBack c.operator
  have hvalue := Value.decode_readsBack c.value
  rw [decode, toJson, fields_object]
  · simp [bind, Except.bind, pure, Except.pure, hfield, hoperator, hvalue]
  · simp
  · simp only [List.forall_mem_cons]
    exact ⟨⟨_, rfl, check_of_eq_ok hfield⟩, ⟨_, rfl, check_of_eq_ok hoperator⟩,
      ⟨_, rfl, check_of_eq_ok hvalue⟩, by simp⟩

/-- A predicate is decoded as its kind says, from the members that this kind has. -/
theorem Predicate.decode_of_kind {d kind : Json.Draft} {k : Kind} {found : Fields}
    (hdraft : kindDraft? d = some kind) (hkind : Kind.decode kind = .ok k)
    (hfound : fields "a predicate" k.shape d = .ok found) :
    decode d = match k with
      | .compare => do
        return .compare (← found.required "comparison" comparison)
          (← found.required "value" Value.decode)
      | .contains => do return .contains (← found.required "value" text)
      | .notContains => do return .notContains (← found.required "value" text) := by
  simp only [decode, hdraft, hkind, hfound, bind, Except.bind]
  cases k <;> rfl

theorem Predicate.fields_text {tag : String} {k : Kind}
    (hkind : Kind.decode (.string tag) = .ok k) (hshape : k.shape = [kindField, textField])
    (text : String) :
    fields "a predicate" k.shape
        (.ofJson (.object [("kind", .string tag), ("value", .string text)])) =
      .ok [("kind", .string tag), ("value", .string text)] := by
  rw [hshape, fields_object]
  · simp [Json.Draft.ofJson]
  · simp
  · have htag : Kind.decode (.ofJson (.string tag)) = .ok k := by rwa [Json.Draft.ofJson]
    simp only [List.forall_mem_cons]
    exact ⟨⟨_, rfl, check_of_eq_ok htag⟩, ⟨_, rfl, check_of_eq_ok (text_readsBack text)⟩, by simp⟩

theorem Predicate.decode_readsBack : Predicate.decode.ReadsBack Predicate.toJson := by
  intro p
  cases p with
  | compare c operand =>
      have hdraft : kindDraft? (.ofJson (compare c operand).toJson) = some (.string "compare") :=
        rfl
      have hkind : Kind.decode (.string "compare") = .ok .compare := rfl
      have hcomparison : comparison (.ofJson (.string c.name)) = .ok c :=
        namedLoosely_readsBack Comparison.ofName?_name _ c
      have hvalue := Value.decode_readsBack operand
      rw [decode_of_kind hdraft hkind (fields_object (by simp) ?_)]
      · simp [bind, Except.bind, pure, Except.pure, hcomparison, hvalue]
      · simp only [List.forall_mem_cons]
        exact ⟨⟨_, rfl, rfl⟩, ⟨_, rfl, check_of_eq_ok hcomparison⟩,
          ⟨_, rfl, check_of_eq_ok hvalue⟩, by simp⟩
  | contains text =>
      have hdraft : kindDraft? (.ofJson (contains text).toJson) = some (.string "contains") := rfl
      have hkind : Kind.decode (.string "contains") = .ok .contains := rfl
      rw [decode_of_kind hdraft hkind (fields_text hkind rfl text)]
      rfl
  | notContains text =>
      have hdraft :
          kindDraft? (.ofJson (notContains text).toJson) = some (.string "not_contains") := rfl
      have hkind : Kind.decode (.string "not_contains") = .ok .notContains := rfl
      rw [decode_of_kind hdraft hkind (fields_text hkind rfl text)]
      rfl

theorem Clause.decode_readsBack : Clause.decode.ReadsBack Clause.toJson := by
  intro clause
  have hfield := Field.decode_readsBack clause.field
  have hpredicate := Predicate.decode_readsBack clause.predicate
  rw [decode, toJson, fields_object]
  · simp [bind, Except.bind, pure, Except.pure, hfield, hpredicate]
  · simp
  · simp only [List.forall_mem_cons]
    exact ⟨⟨_, rfl, check_of_eq_ok hfield⟩, ⟨_, rfl, check_of_eq_ok hpredicate⟩, by simp⟩

theorem Query.decode_readsBack : Query.decode.ReadsBack Query.toJson := by
  intro q
  have hclauses := list_readsBack Clause.decode_readsBack q.clauses
  rw [decode, toJson, fields_object]
  · simp [bind, Except.bind, pure, Except.pure, hclauses]
  · simp
  · simp only [List.forall_mem_cons]
    exact ⟨⟨_, rfl, check_of_eq_ok hclauses⟩, by simp⟩

theorem Residual.decode_readsBack : Residual.decode.ReadsBack Residual.toJson := by
  intro residual
  have hfield := Field.decode_readsBack residual.field
  have hcomparison := Comparison.decode_readsBack residual.comparison
  have hoperand := float_readsBack residual.operand
  rw [decode, toJson, fields_object]
  · simp [bind, Except.bind, pure, Except.pure, hfield, hcomparison, hoperand]
  · simp
  · simp only [List.forall_mem_cons]
    exact ⟨⟨_, rfl, check_of_eq_ok hfield⟩, ⟨_, rfl, check_of_eq_ok hcomparison⟩,
      ⟨_, rfl, check_of_eq_ok hoperand⟩, by simp⟩

theorem Filter.decode_readsBack : Filter.decode.ReadsBack Filter.toJson := by
  intro f
  have hquery := Query.decode_readsBack f.query
  have hresiduals := list_readsBack Residual.decode_readsBack f.residuals
  rw [decode, toJson, fields_object]
  · simp [bind, Except.bind, pure, Except.pure, hquery, hresiduals]
  · simp
  · simp only [List.forall_mem_cons]
    exact ⟨⟨_, rfl, check_of_eq_ok hquery⟩, ⟨_, rfl, check_of_eq_ok hresiduals⟩, by simp⟩

theorem Value.asNumber?_eq_some_iff {v : Value} {x : Binary64} :
    v.asNumber? = some x ↔ v = .number x := by
  cases v <;> simp [asNumber?]

theorem Value.numbers_toJson (v : Value) :
    v.toJson.numbers = v.asNumber?.toList.map Json.Number.float := by
  cases v <;> rfl

theorem Condition.numbers_toJson (c : Condition) :
    c.toJson.numbers = c.value.asNumber?.toList.map Json.Number.float := by
  simp [toJson, Json.numbers, Json.numbersOfMembers, Value.numbers_toJson]

theorem Predicate.numbers_toJson (p : Predicate) :
    p.toJson.numbers = p.number?.toList.map Json.Number.float := by
  cases p with
  | compare c operand => cases operand <;> rfl
  | contains text => rfl
  | notContains text => rfl

theorem Clause.numbers_toJson (clause : Clause) :
    clause.toJson.numbers = clause.predicate.number?.toList.map Json.Number.float := by
  simp [toJson, Json.numbers, Json.numbersOfMembers, Predicate.numbers_toJson]

theorem Query.numbers_toJson (q : Query) :
    q.toJson.numbers =
      (q.clauses.filterMap fun clause => clause.predicate.number?).map Json.Number.float := by
  simp [toJson, Json.numbers, Json.numbersOfMembers, Json.numbersOfItems_eq_flatMap,
    List.flatMap_map, Clause.numbers_toJson, List.filterMap_eq_flatMap_toList, List.map_flatMap]

theorem Filter.numbers_toJson (f : Filter) :
    f.toJson.numbers = f.numbers.map Json.Number.float := by
  have hresiduals : Json.numbersOfItems (f.residuals.map Residual.toJson) =
      f.residuals.map fun residual => .float residual.operand := by
    rw [Json.numbersOfItems_eq_flatMap, List.flatMap_map, List.map_eq_flatMap]
    rfl
  simp only [toJson, Json.numbers, Json.numbersOfMembers, Query.numbers_toJson, hresiduals,
    List.append_nil, numbers, List.map_append, List.map_map]
  rfl

namespace RuleSet

variable {text : String} {rules : RuleSet}

/-- The numbers of the conditions are finite, since each stands in a line. -/
theorem isFinite_of_ofText (h : ofText text = .ok rules) {c : Condition}
    (hc : c ∈ rules.conditions) {x : Binary64} (hx : c.value = .number x) : x.isFinite = true := by
  obtain ⟨-, -, hlines⟩ := read_eq_ok_iff.1 (ofText_eq_ok_iff.1 h).1
  obtain ⟨line, -, hline⟩ := (mem_of_readLines hlines).1 hc
  exact Condition.isFinite_of_parse (readLine_eq_ok_iff.1 hline).parse hx

/-- Accepted rules are read back from their documents, where the reader rounds the texts of their
numbers correctly: each condition with its spelling of the operator and the kind of its value, and
the filter with all clauses and residuals, so that what is read selects the same records. -/
theorem survives_json (h : ofText text = .ok rules)
    (hread : ∀ c ∈ rules.conditions, ∀ x, c.value = .number x →
      Json.ReadsNearest (x.write dataLayout)) :
    ∀ form ∈ Json.forms,
      (∀ c ∈ rules.conditions, Json.decodeText Condition.decode (form c.toJson) = .ok c) ∧
      Json.decodeText Filter.decode (form rules.filter.toJson) = .ok rules.filter ∧
      ∀ f, Json.decodeText Filter.decode (form rules.filter.toJson) = .ok f →
        ∀ r, f.Selects r ↔ rules.filter.Selects r := by
  have hback : ∀ c ∈ rules.conditions, ∀ x, c.value = .number x →
      (Json.Number.float x).ReadsBack := fun c hc x hx =>
    (Json.readsBack_float_iff (isFinite_of_ofText h hc hx)).2 (hread c hc x hx)
  intro form hform
  have hfilter : Json.decodeText Filter.decode (form rules.filter.toJson) = .ok rules.filter := by
    refine Json.decodeText_form hform ?_ (Filter.decode_readsBack rules.filter)
    rw [Filter.numbers_toJson, List.forall_mem_map]
    intro x hx
    obtain ⟨c, hc, hvalue⟩ := Filter.value_of_mem_numbers (ofText_eq_ok_iff.1 h).2 x hx
    exact hback c hc x hvalue
  refine ⟨fun c hc => ?_, hfilter, fun f hf r => ?_⟩
  · refine Json.decodeText_form hform ?_ (Condition.decode_readsBack c)
    rw [Condition.numbers_toJson, List.forall_mem_map]
    intro x hx
    rw [Option.mem_toList, Value.asNumber?_eq_some_iff] at hx
    exact hback c hc x hx
  · rw [hfilter] at hf
    rw [Except.ok.inj hf]

/-- Texts that look like other values, numbers with and without a point, and both spellings of
equality. -/
def shelfText : String :=
  "title = \"true\"\ncategory == \"5\"\ntags != used\non_sale = true\n" ++
    "stock_quantity >= 3\nprice < 19.99\n"

def shelfPrice : Binary64 := Decimal.toBinary64 ⟨false, 1999, -2⟩

def shelfRules : RuleSet where
  conditions := [⟨"title", .equal, .text "true"⟩, ⟨"category", .doubleEqual, .text "5"⟩,
    ⟨"tags", .notEqual, .text "used"⟩, ⟨"on_sale", .equal, .boolean true⟩,
    ⟨"stock_quantity", .greaterOrEqual, .number (.ofInt 3)⟩, ⟨"price", .less, .number shelfPrice⟩]
  filter := ⟨⟨[⟨.title, .compare .eq (.text "true")⟩, ⟨.category, .compare .eq (.text "5")⟩,
      ⟨.tags, .notContains "used"⟩, ⟨.onSale, .compare .eq (.boolean true)⟩,
      ⟨.stockQuantity, .compare .ge (.number (.ofInt 3))⟩]⟩, [⟨.price, .lt, shelfPrice⟩]⟩

def quantityNumeral : Decimal.DataNumeral where
  negative := false
  whole := ['3']
  fraction := ['0']
  power := none
  run_whole := by simp [Decimal.Run]
  zero := by simp
  isDigit_fraction := by simp
  marked := by simp

def priceNumeral : Decimal.DataNumeral where
  negative := false
  whole := ['1', '9']
  fraction := ['9', '9']
  power := none
  run_whole := by simp [Decimal.Run]
  zero := by simp
  isDigit_fraction := by simp
  marked := by simp

theorem shelfRules_readNearest : ∀ c ∈ shelfRules.conditions, ∀ x, c.value = .number x →
    Json.ReadsNearest (x.write dataLayout) := by
  have hquantity : (Binary64.ofInt 3).write dataLayout = quantityNumeral.chars := by
    decide +kernel
  have hprice : shelfPrice.write dataLayout = priceNumeral.chars := by decide +kernel
  have hquantityShort : Json.IsShort quantityNumeral :=
    ⟨by decide +kernel, by decide +kernel, by decide +kernel⟩
  have hpriceShort : Json.IsShort priceNumeral :=
    ⟨by decide +kernel, by decide +kernel, by decide +kernel⟩
  simp only [shelfRules, List.forall_mem_cons, Value.number.injEq, reduceCtorEq, false_implies,
    implies_true, true_and, forall_eq', hquantity, hprice, List.not_mem_nil, and_true]
  exact ⟨Json.readsNearest_of_isShort hquantityShort, Json.readsNearest_of_isShort hpriceShort⟩

def shelfRecord : Record where
  id := 7
  title := "true"
  price := "9.50"
  category := some "5"
  onSale := true
  stockQuantity := some 3

/-- The quoted texts stay texts, and a record with these texts is selected by what is read. -/
theorem shelfRules_survive :
    ofText shelfText = .ok shelfRules ∧
      ∀ form ∈ Json.forms,
        (∀ c ∈ shelfRules.conditions, Json.decodeText Condition.decode (form c.toJson) = .ok c) ∧
        ∃ f, Json.decodeText Filter.decode (form shelfRules.filter.toJson) = .ok f ∧
          f.Selects shelfRecord := by
  have h : ofText shelfText = .ok shelfRules := by decide +kernel
  have hselects : shelfRules.filter.Selects shelfRecord := by decide +kernel
  refine ⟨h, fun form hform => ?_⟩
  obtain ⟨hconditions, hfilter, hsame⟩ := survives_json h shelfRules_readNearest form hform
  exact ⟨hconditions, _, hfilter, (hsame _ hfilter shelfRecord).2 hselects⟩

end RuleSet

end CatalogRules
