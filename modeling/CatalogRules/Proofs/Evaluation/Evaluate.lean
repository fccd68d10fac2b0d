import CatalogRules.Evaluation.Evaluate
import CatalogRules.Proofs.Evaluation.Program
import CatalogRules.Proofs.Evaluation.Threads
import CatalogRules.Proofs.Rule.Reading

/-!
The course of an evaluation on an arbitrary store. A rejected text asks nothing
of the store; any other text asks for the candidates once, and what becomes of
the evaluation depends on the answer alone. What is logged on the way is known
from the text and the result.
-/

namespace CatalogRules

open Log (Journal Entry)

namespace Evaluation

open Program (Quiet Logs)

def readEntries (text : String) : List Entry :=
  match RuleSet.read text with
  | .error _ => []
  | .ok conditions => (logRead conditions).entries

def verdictEntries (settings : Settings) : Except RuleSetError RuleSet → List Entry
  | .error e => (logRejection e).entries
  | .ok rules => (logRuleSet settings rules).entries

theorem logs_readRules (text : String) :
    (readRules text).Logs (readEntries text) (RuleSet.read text) := by
  unfold readRules readEntries
  cases RuleSet.read text with
  | error e => exact Program.logs_done _
  | ok cs => exact (Program.logs_emit _).andThen _

theorem logs_logRuleSet (settings : Settings) (rules : RuleSet) :
    (logRuleSet settings rules).Logs (logRuleSet settings rules).entries () := by
  unfold logRuleSet
  split
  · exact (Program.logs_emit _).bind (Program.logs_emit _)
  · exact (Program.logs_emit _).bind (Program.logs_done _)

/-- Rules are processed without the store. -/
theorem logs_processRules (settings : Settings) (text : String) :
    (processRules settings text).Logs
      (readEntries text ++ verdictEntries settings (RuleSet.ofText text))
      (RuleSet.ofText text) := by
  refine (logs_readRules text).bind ?_
  unfold RuleSet.ofText
  cases RuleSet.read text with
  | error e => exact (Program.logs_emit _).andThen _
  | ok cs =>
      simp only
      cases RuleSet.ofConditions cs with
      | error e => exact (Program.logs_emit _).andThen _
      | ok rules => exact (logs_logRuleSet settings rules).andThen _

theorem quiet_processRules (settings : Settings) (text : String) :
    (processRules settings text).Quiet (RuleSet.ofText text) :=
  (logs_processRules settings text).quiet

/-- What an outcome has to say of the candidates that a store has returned. -/
structure Reports (settings : Settings) (id : String) (rules : RuleSet)
    (candidates : List Record) (o : Outcome) : Prop where
  requestId : o.requestId = id
  records : o.records = candidates.filter fun r =>
    rules.filter.residuals.all fun residual => satisfies r residual matches .ok true
  conditions : o.statistics.conditions = rules.conditions.length
  split : o.statistics.conditions = o.statistics.storeClauses + o.statistics.residuals
  storeClauses : o.statistics.storeClauses = rules.filter.query.clauses.length
  residuals : o.statistics.residuals = rules.filter.residuals.length
  matched : o.statistics.matched = o.records.length
  parallel : o.statistics.parallel = true ↔
    schedule settings.limits rules.filter.residuals candidates = .parallel
  candidates : o.statistics.candidates = candidates.length

theorem accepts_eq_all (residuals : List Residual) (r : Record) :
    accepts residuals r = residuals.all fun residual => satisfies r residual matches .ok true := by
  rw [Bool.eq_iff_iff, accepts_iff, satisfiesAll_eq_true_iff, List.all_eq_true]
  refine forall₂_congr fun residual _ => ?_
  split
  · rename_i hholds
    exact iff_of_true hholds rfl
  · rename_i hne
    exact iff_of_false hne (by simp)

/-- The two places that ask whether the work is split agree. -/
theorem schedule_eq_parallel_iff {limits : Limits} {residuals : List Residual}
    {records : List Record} :
    schedule limits residuals records = .parallel ↔
      (!residuals.isEmpty && limits.isParallel records.length) = true := by
  cases residuals with
  | nil => simp [schedule]
  | cons r rs =>
      cases records with
      | nil => simp [schedule, Limits.isParallel]
      | cons record records =>
          simp only [schedule, List.isEmpty_cons, Bool.or_self, Bool.not_false, Bool.true_and]
          cases limits.isParallel (record :: records).length <;> simp

def closingEntries (settings : Settings) (rules : RuleSet) :
    Except EvaluationError Outcome → List Entry
  | .error e => (logFailure e).entries
  | .ok o =>
    (logCandidates rules o.statistics.candidates o.statistics.parallel).entries ++
      (logEvaluated settings o.statistics).entries

theorem logs_finish (settings : Settings) (id : String) {rules : RuleSet}
    (hcompile : Filter.compile rules.conditions = .ok rules.filter) (candidates : List Record) :
    ∃ o, (finish settings id rules candidates).Logs (closingEntries settings rules (.ok o)) o ∧
      Reports settings id rules candidates o := by
  -- Compiled residuals are on the price, so testing them ends in no fault.
  have hprice := Filter.residual_field_of_compile hcompile
  have happly := applyResiduals_eq_ok settings.limits fun r (_ : r ∈ candidates) =>
    satisfiesAll_isOk_of_price r hprice
  have hcount := Filter.count_of_compile hcompile
  let statistics : Statistics := {
    conditions := rules.conditions.length
    storeClauses := rules.filter.query.clauses.length
    residuals := rules.filter.residuals.length
    candidates := candidates.length
    matched := (candidates.filter (accepts rules.filter.residuals)).length
    parallel := !rules.filter.residuals.isEmpty && settings.limits.isParallel candidates.length }
  refine ⟨⟨id, candidates.filter (accepts rules.filter.residuals), statistics⟩, ?_, ?_⟩
  · unfold finish
    simp only [happly]
    exact (Program.logs_emit _).bind ((Program.logs_emit _).andThen _)
  · exact {
      requestId := rfl
      records := List.filter_congr fun r _ => accepts_eq_all _ r
      conditions := rfl
      split := hcount.symm
      storeClauses := rfl
      residuals := rfl
      matched := rfl
      parallel := schedule_eq_parallel_iff.symm
      candidates := rfl }

/-- What an evaluation ends in once the store has answered. -/
def Concludes (settings : Settings) (id : String) (rules : RuleSet) :
    Except StoreError (List Record) → Except EvaluationError Outcome → Prop
  | .error e, result => result = .error (.store e)
  | .ok candidates, result => ∃ o, result = .ok o ∧ Reports settings id rules candidates o

theorem logs_conclude (settings : Settings) (id : String) {rules : RuleSet}
    (hcompile : Filter.compile rules.conditions = .ok rules.filter)
    (answer : Except StoreError (List Record)) :
    ∃ result, (conclude settings id rules answer).Logs
        (closingEntries settings rules result) result ∧
      Concludes settings id rules answer result := by
  cases answer with
  | error e => exact ⟨.error (.store e), (Program.logs_emit _).andThen _, rfl⟩
  | ok candidates =>
      obtain ⟨o, hlogs, hreports⟩ := logs_finish settings id hcompile candidates
      exact ⟨.ok o, hlogs.andThen Except.ok, o, rfl, hreports⟩

variable {text : String}

def journalAfter (j : Journal) (id : String) (entries : List Entry) : Journal :=
  ((j.withRequest (some id)).writeAll entries).withRequest j.request

theorem run_evaluate_eq_of_rejected (settings : Settings) (id : String) {e : RuleSetError}
    (h : RuleSet.ofText text = .error e) {σ : Type} (b : Backend σ) (j : Journal) (s : σ) :
    (evaluate settings id text).run b j s = ⟨.ok (.error (.rules e)),
      journalAfter j id (readEntries text ++ (logRejection e).entries), s⟩ := by
  have hrules := logs_processRules settings text σ b (j.withRequest (some id)) s
  rw [h] at hrules
  exact Program.run_withRequest (Program.run_bind_of_run_eq hrules)

theorem run_evaluate_of_rejected (settings : Settings) (id : String) {e : RuleSetError}
    (h : RuleSet.ofText text = .error e) {σ : Type} (b : Backend σ) (j : Journal) (s : σ) :
    ∃ j', (evaluate settings id text).run b j s = ⟨.ok (.error (.rules e)), j', s⟩ :=
  ⟨_, run_evaluate_eq_of_rejected settings id h b j s⟩

/-- What accepted rules end in and log depends on the store by its answer only. -/
theorem exists_run_evaluate_eq (settings : Settings) (id : String) {rules : RuleSet}
    (h : RuleSet.ofText text = .ok rules) (answer : Except StoreError (List Record)) :
    ∃ result, Concludes settings id rules answer result ∧
      ∀ {σ : Type} (b : Backend σ) (j : Journal) (s s' : σ),
        b.find s rules.filter.query = (answer, s') →
          (evaluate settings id text).run b j s = ⟨.ok result,
            journalAfter j id (readEntries text ++ (logRuleSet settings rules).entries ++
              closingEntries settings rules result), s'⟩ := by
  obtain ⟨-, hcompile⟩ := RuleSet.ofText_eq_ok_iff.1 h
  -- The result is chosen before the store, so all stores with this answer share it.
  obtain ⟨result, hlogs, hconcludes⟩ := logs_conclude settings id hcompile answer
  refine ⟨result, hconcludes, fun {σ} b j s s' hfind => ?_⟩
  have hrules := logs_processRules settings text σ b (j.withRequest (some id)) s
  rw [h] at hrules
  refine Program.run_withRequest ((Program.run_bind_of_run_eq hrules).trans ?_)
  simp only [Program.run, hfind]
  rw [hlogs σ b _ s', ← Journal.writeAll_append]
  rfl

theorem exists_run_evaluate (settings : Settings) (id : String) {rules : RuleSet}
    (h : RuleSet.ofText text = .ok rules) (answer : Except StoreError (List Record)) :
    ∃ result, Concludes settings id rules answer result ∧
      ∀ {σ : Type} (b : Backend σ) (j : Journal) (s s' : σ),
        b.find s rules.filter.query = (answer, s') →
          ∃ j', (evaluate settings id text).run b j s = ⟨.ok result, j', s'⟩ := by
  obtain ⟨result, hconcludes, hruns⟩ := exists_run_evaluate_eq settings id h answer
  exact ⟨result, hconcludes, fun b j s s' hfind => ⟨_, hruns b j s s' hfind⟩⟩

/-- The course of an evaluation, whatever the store, the limits and the text.
Rules are processed without the store. If they are rejected, the store is asked
nothing and the rejection is the result. Otherwise the store is asked once, for
the candidates of the compiled query, and left as it is after this answer: a
failure is the result, and candidates are reported with the residuals tested to
the end. -/
theorem evaluate_course {σ : Type} (b : Backend σ) (settings : Settings) (id text : String)
    (j : Journal) (s : σ) :
    (processRules settings text).Quiet (RuleSet.ofText text) ∧
    match RuleSet.ofText text with
    | .error e =>
        ((evaluate settings id text).run b j s).result = .ok (.error (.rules e)) ∧
        (evaluate settings id text).requests b j s = [] ∧
        ((evaluate settings id text).run b j s).state = s
    | .ok rules =>
        (evaluate settings id text).requests b j s = [.find rules.filter.query] ∧
        ((evaluate settings id text).run b j s).state = (b.find s rules.filter.query).2 ∧
        RuleSet.read text = .ok rules.conditions ∧
        Filter.compile rules.conditions = .ok rules.filter ∧
        ∃ result, ((evaluate settings id text).run b j s).result = .ok result ∧
          Concludes settings id rules (b.find s rules.filter.query).1 result := by
  refine ⟨quiet_processRules settings text, ?_⟩
  -- In both cases one run on the recorded store tells the result and the requests.
  cases h : RuleSet.ofText text with
  | error e =>
      obtain ⟨j', hrun⟩ := run_evaluate_of_rejected settings id h b.recorded j (s, [])
      rw [Program.run_recorded, Run.mk.injEq, Prod.mk.injEq, List.nil_append] at hrun
      obtain ⟨hresult, -, hstate, hrequests⟩ := hrun
      exact ⟨hresult, hrequests, hstate⟩
  | ok rules =>
      obtain ⟨hread, hcompile⟩ := RuleSet.ofText_eq_ok_iff.1 h
      obtain ⟨result, hconcludes, hruns⟩ :=
        exists_run_evaluate settings id h (b.find s rules.filter.query).1
      obtain ⟨j', hrun⟩ := hruns b.recorded j (s, []) (_, [.find rules.filter.query]) rfl
      rw [Program.run_recorded, Run.mk.injEq, Prod.mk.injEq, List.nil_append] at hrun
      obtain ⟨hresult, -, hstate, hrequests⟩ := hrun
      exact ⟨hrequests, hstate, hread, hcompile, result, hresult, hconcludes⟩

end Evaluation

end CatalogRules
