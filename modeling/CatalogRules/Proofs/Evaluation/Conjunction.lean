import CatalogRules.Proofs.Evaluation.Evaluate

/-!
Rule texts on the store in memory. An accepted text returns the records of the
store that all of its lines select, in the order of their ids. So texts combine
by intersection: lines that are added only remove records, and the order of the
lines and their repetition change nothing.
-/

namespace CatalogRules.Evaluation

open Log (Journal)
open RuleSet (Fits LineAccepted LineSelects)
open Text (ruleLines)

variable {settings : Settings} {id : String} {j : Journal} {store : Store} {text : String}
  {rs : List Record}

/-- The records that an evaluation on a store in memory returns, if it succeeds. -/
def memoryRecords? (settings : Settings) (id : String) (j : Journal) (store : Store)
    (text : String) : Option (List Record) :=
  match ((evaluate settings id text).run Store.backend j store).result with
  | .ok (.ok o) => some o.records
  | _ => none

theorem memoryRecords?_of_rejected {e : RuleSetError} (h : RuleSet.ofText text = .error e) :
    memoryRecords? settings id j store text = none := by
  obtain ⟨j', hrun⟩ := run_evaluate_of_rejected settings id h Store.backend j store
  rw [memoryRecords?, hrun]

theorem memoryRecords?_of_accepted {rules : RuleSet} (h : RuleSet.ofText text = .ok rules) :
    memoryRecords? settings id j store text =
      some (store.records.filter fun r => rules.filter.Selects r) := by
  obtain ⟨result, ⟨o, rfl, hreports⟩, hruns⟩ :=
    exists_run_evaluate settings id h (.ok (store.find rules.filter.query))
  obtain ⟨j', hrun⟩ := hruns Store.backend j store store rfl
  rw [memoryRecords?, hrun]
  -- The store filters by the query and the evaluation by the residuals.
  simp only [hreports.records, Store.find, List.filter_filter, Option.some.injEq]
  refine List.filter_congr fun r _ => ?_
  rw [← accepts_eq_all, Bool.eq_iff_iff, Bool.and_eq_true, decide_eq_true_iff, accepts_iff]
  exact and_comm

theorem memoryRecords?_eq_some_iff :
    memoryRecords? settings id j store text = some rs ↔
      ∃ rules, RuleSet.ofText text = .ok rules ∧
        rs = store.records.filter fun r => rules.filter.Selects r := by
  cases h : RuleSet.ofText text with
  | error e => simp [memoryRecords?_of_rejected h]
  | ok rules => simp [memoryRecords?_of_accepted h, eq_comm]

theorem mem_of_memoryRecords? (h : memoryRecords? settings id j store text = some rs)
    {r : Record} :
    r ∈ rs ↔ r ∈ store.records ∧ ∀ line ∈ ruleLines text, LineSelects line r := by
  obtain ⟨rules, hrules, rfl⟩ := memoryRecords?_eq_some_iff.1 h
  rw [List.mem_filter, decide_eq_true_iff, RuleSet.selects_ofText hrules]

theorem ascending_of_memoryRecords? (h : memoryRecords? settings id j store text = some rs) :
    rs.Pairwise fun a b => a.id < b.id := by
  obtain ⟨rules, -, rfl⟩ := memoryRecords?_eq_some_iff.1 h
  exact store.ascending.filter _

theorem lines_of_memoryRecords? (h : memoryRecords? settings id j store text = some rs) :
    ruleLines text ≠ [] ∧ ∀ line ∈ ruleLines text, LineAccepted line := by
  obtain ⟨rules, hrules, -⟩ := memoryRecords?_eq_some_iff.1 h
  obtain ⟨hne, -, haccepted⟩ := RuleSet.exists_ofText_iff.1 ⟨rules, hrules⟩
  exact ⟨hne, haccepted⟩

/-- More lines return fewer records. -/
theorem sublist_of_lines_subset {settings' : Settings} {id' : String} {j' : Journal}
    {text' : String} {rs' : List Record}
    (h : memoryRecords? settings id j store text = some rs)
    (h' : memoryRecords? settings' id' j' store text' = some rs')
    (hlines : ruleLines text ⊆ ruleLines text') : rs'.Sublist rs := by
  obtain ⟨rules, hrules, rfl⟩ := memoryRecords?_eq_some_iff.1 h
  obtain ⟨rules', hrules', rfl⟩ := memoryRecords?_eq_some_iff.1 h'
  have himp (r : Record) (hselects : rules'.filter.Selects r) : rules.filter.Selects r := by
    rw [RuleSet.selects_ofText hrules]
    exact fun line hline => (RuleSet.selects_ofText hrules' r).1 hselects line (hlines hline)
  -- The filter of more lines may as well be applied after that of fewer.
  have hfilter : store.records.filter (fun r => rules'.filter.Selects r) =
      (store.records.filter fun r => rules.filter.Selects r).filter
        fun r => rules'.filter.Selects r := by
    rw [List.filter_filter]
    refine List.filter_congr fun r _ => ?_
    rw [Bool.eq_iff_iff, Bool.and_eq_true, decide_eq_true_iff, decide_eq_true_iff]
    exact (and_iff_left_of_imp (himp r)).symm
  rw [hfilter]
  exact List.filter_sublist

variable {settings' : Settings} {id' : String} {j' : Journal} {a b c : String}
  {as bs : List Record}

/-- A text whose lines are those of two accepted texts returns what both return. -/
theorem memoryRecords?_of_lines_union (ha : memoryRecords? settings id j store a = some as)
    (hb : memoryRecords? settings' id' j' store b = some bs) (hfits : Fits c)
    (hlines : ∀ line, line ∈ ruleLines c ↔ line ∈ ruleLines a ∨ line ∈ ruleLines b)
    (settings'' : Settings) (id'' : String) (j'' : Journal) :
    memoryRecords? settings'' id'' j'' store c = some (as.filter fun r => r ∈ bs) := by
  obtain ⟨hne, haccepted⟩ := lines_of_memoryRecords? ha
  obtain ⟨-, haccepted'⟩ := lines_of_memoryRecords? hb
  have hne' : ruleLines c ≠ [] := by
    obtain ⟨line, hline⟩ := List.exists_mem_of_ne_nil _ hne
    exact List.ne_nil_of_mem ((hlines line).2 (.inl hline))
  have hall (line : String) (hline : line ∈ ruleLines c) : LineAccepted line := by
    rcases (hlines line).1 hline with h | h
    · exact haccepted line h
    · exact haccepted' line h
  obtain ⟨rules, hrules⟩ := RuleSet.exists_ofText_iff.2 ⟨hne', hfits, hall⟩
  obtain ⟨rulesA, hrulesA, rfl⟩ := memoryRecords?_eq_some_iff.1 ha
  rw [memoryRecords?_of_accepted hrules, List.filter_filter, Option.some.injEq]
  refine List.filter_congr fun r hr => ?_
  rw [Bool.eq_iff_iff, Bool.and_eq_true]
  simp only [decide_eq_true_iff, mem_of_memoryRecords? hb, RuleSet.selects_ofText hrules,
    RuleSet.selects_ofText hrulesA, hlines]
  constructor
  · intro hboth
    exact ⟨⟨hr, fun line h => hboth line (.inr h)⟩, fun line h => hboth line (.inl h)⟩
  · rintro ⟨⟨-, hright⟩, hleft⟩ line (h | h)
    · exact hleft line h
    · exact hright line h

theorem memoryRecords?_of_lines_eq (ha : memoryRecords? settings id j store a = some as)
    (hfits : Fits c) (hlines : ∀ line, line ∈ ruleLines c ↔ line ∈ ruleLines a)
    (settings' : Settings) (id' : String) (j' : Journal) :
    memoryRecords? settings' id' j' store c = some as := by
  have hself : (as.filter fun r => r ∈ as) = as :=
    List.filter_eq_self.2 fun r hr => decide_eq_true hr
  rw [memoryRecords?_of_lines_union ha ha hfits (fun line => by rw [hlines, or_self]), hself]

/-- Rule texts combine by intersection. Two accepted texts with an end of line
between them, in either order, return the records that both return, in the order of
the ids, as long as the limits are kept. Any text with the lines of the first one
returns the same records, however they are ordered and repeated, and an accepted
text with further lines returns some of them. -/
theorem rule_texts_intersect (ha : memoryRecords? settings id j store a = some as)
    (hb : memoryRecords? settings' id' j' store b = some bs) :
    (∀ sep ∈ ["\n", "\r\n"], ∀ c ∈ [a ++ sep ++ b, b ++ sep ++ a], Fits c →
      ∀ settings id j,
        memoryRecords? settings id j store c = some (as.filter fun r => r ∈ bs)) ∧
    (as.filter fun r => r ∈ bs).Pairwise (fun r s => r.id < s.id) ∧
    (∀ c, Fits c → (∀ line, line ∈ ruleLines c ↔ line ∈ ruleLines a) →
      ∀ settings id j, memoryRecords? settings id j store c = some as) ∧
    ∀ c cs settings id j, memoryRecords? settings id j store c = some cs →
      ruleLines a ⊆ ruleLines c → cs.Sublist as := by
  refine ⟨?_, (ascending_of_memoryRecords? ha).filter _, ?_, ?_⟩
  · intro sep hsep c hc hfits
    apply memoryRecords?_of_lines_union ha hb hfits
    intro line
    rcases List.mem_cons.1 hc with rfl | hc
    · rw [Text.ruleLines_append hsep, List.mem_append]
    · obtain rfl := List.mem_singleton.1 hc
      rw [Text.ruleLines_append hsep, List.mem_append, or_comm]
  · exact fun c hfits hlines => memoryRecords?_of_lines_eq ha hfits hlines
  · exact fun c cs _ _ _ hc hlines => sublist_of_lines_subset ha hc hlines

def mug : Record := { id := 1, price := "7.5" }

def lamp : Record := { id := 2, price := "12", tags := ["new"] }

def chair : Record := { id := 3, price := "25", tags := ["new"] }

def onShelf (text : String) : Option (List Record) :=
  memoryRecords? ⟨.sequential, false, "0"⟩ "request" (.empty .error "")
    (.ofRecords [chair, lamp, mug]) text

theorem onShelf_intersect :
    onShelf "price < 20" = some [mug, lamp] ∧ onShelf "\ntags = new" = some [lamp, chair] ∧
      onShelf ("price < 20" ++ "\r\n" ++ "\ntags = new") = some [lamp] := by
  have hcheap : onShelf "price < 20" = some [mug, lamp] := by decide +kernel
  have hnew : onShelf "\ntags = new" = some [lamp, chair] := by decide +kernel
  have hfits : Fits ("price < 20" ++ "\r\n" ++ "\ntags = new") :=
    ⟨by decide +kernel, by decide +kernel⟩
  obtain ⟨hcombined, -⟩ := rule_texts_intersect hcheap hnew
  exact ⟨hcheap, hnew, hcombined "\r\n" (by decide) _ (by simp) hfits _ _ _⟩

end CatalogRules.Evaluation
