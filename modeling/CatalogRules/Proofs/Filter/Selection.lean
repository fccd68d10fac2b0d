import CatalogRules.Proofs.Evaluation.Residual
import CatalogRules.Proofs.Filter.Compilation
import CatalogRules.Store.Matching

/-!
Which records a filter selects: those that satisfy the clauses in the store and
all residuals after retrieval. A compiled list of conditions selects what all of
its conditions select, each compiled on its own, so neither the order nor the
repetition of conditions matters, nor how they are shared between the store and
the evaluation.
-/

namespace CatalogRules

open Evaluation (satisfiesAll)

namespace Filter

def Selects (f : Filter) (r : Record) : Prop :=
  r.satisfiesQuery f.query = true ∧ satisfiesAll r f.residuals = .ok true

instance (f : Filter) (r : Record) : Decidable (f.Selects r) :=
  decidable_of_iff (r.satisfiesQuery f.query = true ∧ Evaluation.accepts f.residuals r = true)
    (and_congr_right' Evaluation.accepts_iff)

theorem selects_empty (r : Record) : empty.Selects r := ⟨rfl, rfl⟩

theorem selects_append {f g : Filter} {r : Record} :
    (f ++ g).Selects r ↔ f.Selects r ∧ g.Selects r := by
  simp only [Selects, Record.satisfiesQuery, clauses_append, residuals_append, List.all_append,
    Bool.and_eq_true, Evaluation.satisfiesAll_append_eq_true_iff]
  exact and_and_and_comm

theorem selects_ofClause {clause : Clause} {r : Record} :
    (ofClause clause).Selects r ↔ r.satisfiesClause clause = true := by
  simp [Selects, ofClause, Record.satisfiesQuery]

theorem selects_ofResidual {residual : Residual} {r : Record} :
    (ofResidual residual).Selects r ↔ Evaluation.satisfies r residual = .ok true := by
  simp [Selects, ofResidual, Record.satisfiesQuery, Evaluation.satisfiesAll_eq_true_iff]

end Filter

/-- The condition compiles, and what it compiles to selects the record. -/
def Condition.Selects (c : Condition) (r : Record) : Prop :=
  ∃ g, c.compile = .ok g ∧ g.Selects r

namespace Filter

theorem selects_compileFrom {cs : List Condition} {f : Filter} {position : Nat}
    (h : compileFrom position cs = .ok f) (r : Record) :
    f.Selects r ↔ ∀ c ∈ cs, c.Selects r := by
  induction cs generalizing position f with
  | nil =>
      obtain rfl : empty = f := by simpa [compileFrom] using h
      simp [selects_empty]
  | cons c cs ih =>
      obtain ⟨first, rest, hfirst, hrest, rfl⟩ := compileFrom_cons_eq_ok_iff.1 h
      rw [selects_append, List.forall_mem_cons, ih hrest]
      have hc : c.Selects r ↔ first.Selects r := by
        constructor
        · rintro ⟨g, hg, hselects⟩
          rw [hfirst] at hg
          rwa [Except.ok.inj hg]
        · exact fun hselects => ⟨first, hfirst, hselects⟩
      rw [hc]

/-- A compiled filter selects what all of its conditions select. -/
theorem selects_compile {cs : List Condition} {f : Filter} (h : compile cs = .ok f) (r : Record) :
    f.Selects r ↔ ∀ c ∈ cs, c.Selects r :=
  selects_compileFrom h r

end Filter

end CatalogRules
