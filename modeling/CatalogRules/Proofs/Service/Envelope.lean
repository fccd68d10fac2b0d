import CatalogRules.Proofs.Evaluation.Evaluate
import CatalogRules.Proofs.Record.RoundTrip
import CatalogRules.Service.Service

/-!
Envelopes of answers. The service answers as the evaluator has ended and leaves store and journal
as the evaluator does, so that the status tells whether the rules or the store are at fault. A
written envelope is read back but for its status, which is why a success is never written like a
failure, even when it has no data.
-/

namespace CatalogRules

open Json.Decode
open Log (Journal)

namespace Envelope

variable {α : Type} {e : Envelope α}

/-- The envelope carries the data, with their number. No list in memory has `2 ^ 64` elements. -/
structure Carries (e : Envelope α) (data : List α) : Prop where
  success : e.success = true
  count : ∃ n, e.count = some n ∧ (data.length < 2 ^ 64 → n.toNat = data.length)
  data : e.data = some data
  error : e.error = none
  status : e.status = 200

structure Refuses (e : Envelope α) (message : String) (status : ℕ) : Prop where
  success : e.success = false
  count : e.count = none
  data : e.data = none
  error : e.error = some message
  status : e.status = status

theorem carries_ofData (data : List α) : (ofData data).Carries data where
  success := rfl
  count := ⟨_, rfl, fun h => UInt64.toNat_ofNat_of_lt' h⟩
  data := rfl
  error := rfl
  status := rfl

theorem refuses_ofFailure (message : String) (status : ℕ) :
    (ofFailure (α := α) message status).Refuses message status where
  success := rfl
  count := rfl
  data := rfl
  error := rfl
  status := rfl

/-- The envelope answers what an evaluation has ended in: it carries the data, or refuses them with
the status of the party at fault. -/
def Answers (e : Envelope α) : Except EvaluationError (List α) → Prop
  | .ok data => e.Carries data
  | .error (.rules cause) => e.Refuses (EvaluationError.rules cause).userMessage 400
  | .error (.store cause) => e.Refuses (EvaluationError.store cause).userMessage 500

theorem answers_ofResult (result : Except EvaluationError (List α)) :
    (ofResult result).Answers result := by
  match result with
  | .ok data => exact carries_ofData data
  | .error (.rules cause) => exact refuses_ofFailure _ 400
  | .error (.store cause) => exact refuses_ofFailure _ 500

theorem Answers.success_iff {result : Except EvaluationError (List α)} (h : e.Answers result) :
    e.success = true ↔ ∃ data, result = .ok data := by
  match result, h with
  | .ok data, h => simp [h.success]
  | .error (.rules _), h | .error (.store _), h => simp [h.success]

theorem Answers.status_eq_iff {result : Except EvaluationError (List α)} (h : e.Answers result) :
    (e.status = 400 ↔ ∃ cause, result = .error (.rules cause)) ∧
      (e.status = 500 ↔ ∃ cause, result = .error (.store cause)) := by
  match result, h with
  | .ok data, h => simp [h.status]
  | .error (.rules _), h | .error (.store _), h => simp [h.status]

theorem numbers_toJson (write : α → Json) (e : Envelope α) :
    (e.toJson write).numbers = (e.count.map fun n => .integer n.toNat).toList ++
      (e.data.elim [] fun data => (Json.array (data.map write)).numbers) := by
  rw [toJson]
  cases e.count <;> cases e.data <;> cases e.error <;>
    simp [Json.numbers, Json.numbersOfMembers, Json.ofNat]

section

variable {item : Json.Decoder α} {write : α → Json} (hitem : item.ReadsBack write)

include hitem

theorem exists_fields_toJson (e : Envelope α) :
    ∃ found, fields "an envelope" (shape item) (.ofJson (e.toJson write)) = .ok found ∧
      found.get? "success" = some (.ofJson (.bool e.success)) ∧
      found.get? "count" = e.count.map (fun n => .ofJson (.ofNat n.toNat)) ∧
      found.get? "data" = e.data.map (fun data => .ofJson (.array (data.map write))) ∧
      found.get? "error" = e.error.map (fun message => .ofJson (.string message)) := by
  refine ⟨_, fields_object ?_ ?_, ?_⟩
  · cases e.count <;> cases e.data <;> cases e.error <;> simp
  · -- One goal for each part; what is left out has nothing to be checked.
    simp only [List.forall_mem_append, List.forall_mem_singleton]
    refine ⟨⟨⟨⟨_, rfl, check_of_eq_ok (flag_readsBack e.success)⟩, ?_⟩, ?_⟩, ?_⟩
    · cases e.count with
      | none => simp
      | some n =>
          rw [List.forall_mem_singleton]
          exact ⟨_, rfl, check_of_eq_ok
            (optional_readsBack unsigned_readsBack (by simp [Json.ofNat]) (some n))⟩
    · cases e.data with
      | none => simp
      | some data =>
          rw [List.forall_mem_singleton]
          exact ⟨_, rfl, check_of_eq_ok
            (optional_readsBack (list_readsBack hitem) (by simp) (some data))⟩
    · cases e.error with
      | none => simp
      | some message =>
          rw [List.forall_mem_singleton]
          exact ⟨_, rfl, check_of_eq_ok (optional_text_readsBack (some message))⟩
  · cases e.count <;> cases e.data <;> cases e.error <;> simp [get?_cons]

/-- A written envelope is decoded as it was, but for its status. -/
theorem decode_ofJson_toJson (e : Envelope α) :
    decode item (.ofJson (e.toJson write)) = .ok { e with status := 0 } := by
  obtain ⟨found, hfields, hsuccess, hcount, hdata, herror⟩ := exists_fields_toJson hitem e
  have hsuccess := required_eq_ok flag_readsBack hsuccess
  have hcount := withDefault_optional unsigned_readsBack (by simp [Json.ofNat]) hcount
  have hdata := withDefault_optional (list_readsBack hitem) (by simp) hdata
  have herror := withDefault_optional text_readsBack (by simp) herror
  simp only [decode, hfields, hsuccess, hcount, hdata, herror, bind, Except.bind, pure, Except.pure]

end

end Envelope

namespace Evaluation

/-- An evaluation ends, and its fault lies in the rules just when they are rejected, and in the
store just when it fails on the query of the rules. -/
theorem exists_result {σ : Type} (b : Backend σ) (settings : Settings) (id text : String)
    (j : Journal) (s : σ) :
    ∃ result j' s', (evaluate settings id text).run b j s = ⟨.ok result, j', s'⟩ ∧
      (∀ cause, result = .error (.rules cause) ↔ RuleSet.ofText text = .error cause) ∧
      ∀ cause, result = .error (.store cause) ↔
        ∃ rules, RuleSet.ofText text = .ok rules ∧
          (b.find s rules.filter.query).1 = .error cause := by
  cases h : RuleSet.ofText text with
  | error e =>
      obtain ⟨j', hrun⟩ := run_evaluate_of_rejected settings id h b j s
      exact ⟨_, j', s, hrun, by simp, by simp⟩
  | ok rules =>
      obtain ⟨result, hconcludes, hruns⟩ :=
        exists_run_evaluate settings id h (b.find s rules.filter.query).1
      obtain ⟨j', hrun⟩ := hruns b j s _ rfl
      refine ⟨result, j', _, hrun, ?_⟩
      cases hanswer : (b.find s rules.filter.query).1 with
      | error e =>
          rw [hanswer] at hconcludes
          obtain rfl : result = .error (.store e) := hconcludes
          simp [hanswer]
      | ok candidates =>
          rw [hanswer] at hconcludes
          obtain ⟨o, rfl, -⟩ := hconcludes
          simp [hanswer]

end Evaluation

namespace Service

open Evaluation (Outcome Settings)

variable {σ : Type} {b : Backend σ} {settings : Settings} {id text : String} {j j' : Journal}
  {s s' : σ}

theorem run_evaluate {result : Except EvaluationError Outcome}
    (h : (Evaluation.evaluate settings id text).run b j s = ⟨.ok result, j', s'⟩) :
    (evaluate settings id text).run b j s =
      ⟨.ok (.ofResult (result.map Outcome.records)), j', s'⟩ := by
  refine (Program.run_bind_of_run_eq h).trans ?_
  cases result <;> rfl

theorem exists_run_products (b : Backend σ) (j : Journal) (s : σ) :
    ∃ e j', products.run b j s = ⟨.ok e, j', (b.find s .matchAll).2⟩ ∧
      match (b.find s .matchAll).1 with
      | .ok records => e.Carries records
      | .error cause => e.Refuses cause.message 500 := by
  rw [products, Program.run]
  rcases b.find s .matchAll with ⟨cause | records, s'⟩
  · exact ⟨_, _, rfl, Envelope.refuses_ofFailure cause.message 500⟩
  · exact ⟨_, _, rfl, Envelope.carries_ofData records⟩

theorem numbers_envelopeJson_readBack {e : Envelope Record} {n : Json.Number}
    (h : n ∈ (envelopeJson e).numbers) : n.ReadsBack := by
  rw [envelopeJson, Envelope.numbers_toJson, List.mem_append] at h
  rcases h with h | h
  · obtain ⟨count, -, rfl⟩ := Option.map_eq_some_iff.1 (Option.mem_toList.1 h)
    exact Record.id_readsBack count
  · cases hdata : e.data with
    | none => simp [hdata] at h
    | some data =>
        rw [hdata] at h
        exact Record.numbers_listToJson_readBack h

theorem decodeText_envelopeJson {form : Json → String} (hform : form ∈ Json.forms)
    (e : Envelope Record) :
    Json.decodeText (Envelope.decode Record.decode) (form (envelopeJson e)) =
      .ok { e with status := 0 } :=
  Json.decodeText_form hform (fun _ hn => numbers_envelopeJson_readBack hn)
    (Envelope.decode_ofJson_toJson Record.decode_readsBack e)

/-- The service answers an evaluation with the records of the evaluator or with the message of its
error, and with the status of the party at fault; it lists all records or answers with the failure
of the store. Either way the envelope is read back from its text but for the status, and the text
of a success is never that of a failure. -/
theorem answers_consistently :
    (∀ {σ : Type} (b : Backend σ) (settings : Settings) (id text : String) (j : Journal) (s : σ),
      ∃ result e j' s', (Evaluation.evaluate settings id text).run b j s = ⟨.ok result, j', s'⟩ ∧
        (evaluate settings id text).run b j s = ⟨.ok e, j', s'⟩ ∧
        e.Answers (result.map Outcome.records) ∧
        (e.success = true ↔ ∃ o, result = .ok o) ∧
        (e.status = 400 ↔ ∃ cause, RuleSet.ofText text = .error cause) ∧
        (e.status = 500 ↔ ∃ rules cause, RuleSet.ofText text = .ok rules ∧
          (b.find s rules.filter.query).1 = .error cause)) ∧
    (∀ {σ : Type} (b : Backend σ) (j : Journal) (s : σ),
      ∃ e j', products.run b j s = ⟨.ok e, j', (b.find s .matchAll).2⟩ ∧
        match (b.find s .matchAll).1 with
        | .ok records => e.Carries records
        | .error cause => e.Refuses cause.message 500) ∧
    (∀ (store : Store) (j : Journal),
      ∃ e j', products.run Store.backend j store = ⟨.ok e, j', store⟩ ∧
        e.Carries store.records) ∧
    (∀ form ∈ Json.forms, ∀ e : Envelope Record,
      Json.decodeText (Envelope.decode Record.decode) (form (envelopeJson e)) =
        .ok { e with status := 0 }) ∧
    ∀ form ∈ Json.forms, ∀ form' ∈ Json.forms, ∀ e e' : Envelope Record,
      e.success = true → e'.success = false → form (envelopeJson e) ≠ form' (envelopeJson e') := by
  refine ⟨fun b settings id text j s => ?_, exists_run_products, fun store j => ?_,
    fun form hform e => decodeText_envelopeJson hform e,
    fun form hform form' hform' e e' he he' heq => ?_⟩
  · obtain ⟨result, j', s', hrun, hrules, hstore⟩ :=
      Evaluation.exists_result b settings id text j s
    have hanswers := Envelope.answers_ofResult (result.map Outcome.records)
    refine ⟨result, _, j', s', hrun, run_evaluate hrun, hanswers, ?_, ?_, ?_⟩
    · rw [hanswers.success_iff]
      cases result <;> simp [Except.map]
    · rw [hanswers.status_eq_iff.1]
      simp only [← hrules]
      cases result <;> simp [Except.map]
    · rw [hanswers.status_eq_iff.2, exists_comm]
      simp only [← hstore]
      cases result <;> simp [Except.map]
  · obtain ⟨e, j', hrun, hcarries⟩ := exists_run_products Store.backend j store
    refine ⟨e, j', hrun, ?_⟩
    simpa [Store.backend] using hcarries
  · have hread := decodeText_envelopeJson hform e
    rw [heq, decodeText_envelopeJson hform' e'] at hread
    have hsuccess := congrArg Envelope.success (Except.ok.inj hread)
    simp [he, he'] at hsuccess

/-- An answer without records is not written like a failure. -/
theorem empty_answer_unlike_failure :
    Json.compact ∈ Json.forms ∧ (Envelope.ofData ([] : List Record)).success = true ∧
      (envelopeJson (.ofData [])).compact ≠ (envelopeJson (.ofFailure "" 500)).compact := by
  have hform : Json.compact ∈ Json.forms := by simp [Json.forms]
  exact ⟨hform, rfl, answers_consistently.2.2.2.2 _ hform _ hform _ _ rfl rfl⟩

end Service

end CatalogRules
