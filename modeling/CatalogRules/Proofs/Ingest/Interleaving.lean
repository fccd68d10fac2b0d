import CatalogRules.Proofs.Evaluation.Interleaving
import CatalogRules.Proofs.Ingest.Run
import CatalogRules.Proofs.Store.History

/-!
Ingestions that share a store in memory. However their upserts interleave, the store
keeps the last record written under each id, it has grown by the upserts that were
answered as new, and each ingestion counts the answers that it has had itself.
-/

namespace CatalogRules

open Log (Journal)

namespace Exchange

def written? : Exchange → Option Record
  | .upsert record (.ok _) => some record
  | _ => none

def isInsertion : Exchange → Bool
  | .upsert _ (.ok .inserted) => true
  | _ => false

def written (es : List Exchange) : List Record := es.filterMap written?

def insertions (es : List Exchange) : Nat := es.countP isInsertion

theorem written_cons (e : Exchange) (es : List Exchange) :
    written (e :: es) = written [e] ++ written es := by
  rw [written, ← List.singleton_append, List.filterMap_append]
  rfl

theorem insertions_cons (e : Exchange) (es : List Exchange) :
    insertions (e :: es) = insertions [e] + insertions es := by
  rw [insertions, ← List.singleton_append, List.countP_append]
  rfl

/-- The exchange does not fail, and its answer is the one of a store in which these records
have been written. -/
def FollowsFrom (history : List Record) : Exchange → Prop
  | .find query answer =>
      ∃ found, answer = .ok found ∧ Store.Answers history (.find query) (.records found)
  | .upsert record answer =>
      ∃ outcome, answer = .ok outcome ∧ Store.Answers history (.upsert record) (.outcome outcome)

end Exchange

namespace Store

open Exchange (written insertions)

/-- Exchanges lose nothing of a store and count nothing twice. -/
structure Conserves (s : Store) (es : List Exchange) (s' : Store) : Prop where
  size : s'.size = s.size + insertions es
  /-- The last record written with an id stands under it. -/
  latest : ∀ id, s'.get? id = (latest? id (written es)).or (s.get? id)
  present : ∀ r ∈ written es, (s'.get? r.id).isSome = true
  untouched : ∀ id, id ∉ (written es).map Record.id → s'.get? id = s.get? id
  /-- Each exchange is answered from the records written before it. -/
  answered : ∀ before e after, es = before ++ e :: after →
    e.FollowsFrom (s.records ++ written before)

variable {s s' : Store} {e : Exchange} {es : List Exchange}

theorem eq_of_has (h : backend.Has s e s') : s' = (written [e]).foldl insert s := by
  cases e with
  | find query answer =>
      cases h
      rfl
  | upsert record answer =>
      cases h
      rfl

theorem size_of_has (h : backend.Has s e s') : s'.size = s.size + insertions [e] := by
  cases e with
  | find query answer =>
      cases h
      rfl
  | upsert record answer =>
      cases h
      rw [size_insert]
      cases (s.get? record.id).isSome <;> rfl

theorem followsFrom_of_has {history : List Record} (h : backend.Has (ofRecords history) e s') :
    e.FollowsFrom history := by
  cases e with
  | find query answer =>
      cases h
      exact ⟨_, rfl, answers_access history (.find query)⟩
  | upsert record answer =>
      cases h
      exact ⟨_, rfl, answers_access history (.upsert record)⟩

theorem eq_of_serial (h : backend.Serial s es s') : s' = (written es).foldl insert s := by
  induction es generalizing s with
  | nil => exact h.symm
  | cons e es ih =>
      obtain ⟨s₁, he, hes⟩ := h
      rw [ih hes, eq_of_has he, Exchange.written_cons e es, List.foldl_append]

theorem size_of_serial (h : backend.Serial s es s') : s'.size = s.size + insertions es := by
  induction es generalizing s with
  | nil =>
      rw [← (h : s = s')]
      rfl
  | cons e es ih =>
      obtain ⟨s₁, he, hes⟩ := h
      rw [ih hes, size_of_has he, Exchange.insertions_cons e es, Nat.add_assoc]

theorem conserves_of_serial (h : backend.Serial s es s') : Conserves s es s' := by
  have hlatest (id : UInt64) : s'.get? id = (latest? id (written es)).or (s.get? id) := by
    rw [eq_of_serial h, get?_foldl_insert]
  refine ⟨size_of_serial h, hlatest, fun r hr => ?_, fun id hid => ?_, ?_⟩
  · rw [eq_of_serial h]
    exact isSome_get?_foldl_insert s hr
  · have hnone : latest? id (written es) = none := by
      rw [← Option.not_isSome_iff_eq_none, isSome_latest?_iff]
      exact hid
    rw [hlatest, hnone, Option.none_or]
  · rintro before e after rfl
    obtain ⟨s₁, hbefore, s₂, he, -⟩ := backend.serial_append.1 h
    have hs₁ : s₁ = ofRecords (s.records ++ written before) := by
      rw [ofRecords_append, ofRecords_records, eq_of_serial hbefore]
    exact followsFrom_of_has (hs₁ ▸ he)

end Store

namespace Ingest

open Exchange (written insertions)

/-- An ingestion whose products have been saved, or of which one has been refused. -/
def report (products : List Product) :
    Except IngestError Counts → Program (Except IngestError IngestSummary)
  | .error e => .done (.error e)
  | .ok counts =>
    let summary : IngestSummary :=
      ⟨products.length, counts.inserted + counts.updated, counts.inserted, counts.updated⟩
    (logComplete summary).bind fun _ => .done (.ok summary)

theorem ingest_eq_bind (products : List Product) :
    ingest products = (saveAll .zero products).bind (report products) := rfl

/-- The exchanges have put the records of the products into the store one after the other,
and their answers are counted. -/
inductive Saved : List Product → List Exchange → Counts → Prop
  | nil : Saved [] [] .zero
  | snoc {products : List Product} {es : List Exchange} {counts : Counts} {p : Product}
      {record : Record} (outcome : UpsertOutcome) (before : Saved products es counts)
      (hp : p.toRecord = .ok record) :
      Saved (products ++ [p]) (es ++ [.upsert record (.ok outcome)]) (counts.add outcome)

namespace Saved

variable {products : List Product} {es : List Exchange} {counts : Counts}

theorem mapped (h : Saved products es counts) : Mapped products (written es) := by
  induction h with
  | nil => exact .nil
  | snoc outcome before hp ih =>
      rw [written, List.filterMap_append]
      exact List.rel_append ih (.cons hp .nil)

theorem inserted_eq (h : Saved products es counts) : counts.inserted = insertions es := by
  induction h with
  | nil => rfl
  | snoc outcome before hp ih =>
      rw [insertions, List.countP_append, ← insertions, ← ih]
      cases outcome <;> rfl

theorem total_eq (h : Saved products es counts) :
    counts.inserted + counts.updated = products.length := by
  induction h with
  | nil => rfl
  | snoc outcome before hp ih => rw [total_add, ih, List.length_append, List.length_singleton]

end Saved

/-- How far the ingestion of a list has come with a number of steps and with exchanges. -/
inductive Stage (products : List Product) :
    Nat → List Exchange → Program (Except IngestError IngestSummary) → Prop
  | saving {before rest : List Product} {es : List Exchange} {counts : Counts}
      (hproducts : products = before ++ rest) (hsaved : Saved before es counts) :
      Stage products before.length es ((saveAll counts rest).bind (report products))
  | stopped {before after : List Product} {p : Product} {e : IngestError} {n : Nat}
      {es : List Exchange} {counts : Counts} (hproducts : products = before ++ p :: after)
      (hsaved : Saved before es counts) (hp : p.toRecord = .error e) (hn : before.length < n) :
      Stage products n es (.done (.error e))
  | completed {n : Nat} {es : List Exchange} {counts : Counts}
      (hsaved : Saved products es counts) (hn : products.length < n) :
      Stage products n es (.done (.ok
        ⟨products.length, counts.inserted + counts.updated, counts.inserted, counts.updated⟩))

variable {products : List Product} {n : Nat} {es : List Exchange}
  {program : Program (Except IngestError IngestSummary)}

theorem stage_step (h : Stage products n es program) (j : Journal) (s : Store) :
    Stage products (n + 1) (es ++ (program.step Store.backend j s).exchange.toList)
      (program.step Store.backend j s).program := by
  cases h with
  | @saving before rest es counts hproducts hsaved =>
      cases rest with
      | nil =>
          rw [List.append_nil] at hproducts
          subst hproducts
          have hnext := Stage.completed hsaved (Nat.lt_succ_self _)
          rwa [← List.append_nil es] at hnext
      | cons p rest =>
          cases hp : p.toRecord with
          | error e =>
              have hnext := Stage.stopped hproducts hsaved hp (Nat.lt_succ_self _)
              rw [← List.append_nil es] at hnext
              rw [saveAll, hp]
              exact hnext
          | ok record =>
              have hproducts' : products = before ++ [p] ++ rest := by
                rw [hproducts, List.append_assoc, List.singleton_append]
              have hnext := Stage.saving hproducts' (hsaved.snoc (s.upsert record).1 hp)
              rw [List.length_append, List.length_singleton] at hnext
              rw [saveAll, hp]
              exact hnext
  | stopped hproducts hsaved hp hn =>
      have hnext := Stage.stopped hproducts hsaved hp (hn.trans (Nat.lt_succ_self _))
      rwa [← List.append_nil es] at hnext
  | completed hsaved hn =>
      have hnext := Stage.completed hsaved (hn.trans (Nat.lt_succ_self _))
      rwa [← List.append_nil es] at hnext

theorem saveAll_bind_ne_done (counts : Counts) (rest : List Product)
    (answer : Except IngestError IngestSummary) :
    (saveAll counts rest).bind (report products) ≠ .done answer := by
  intro h
  cases rest with
  | nil => cases h
  | cons p rest =>
      rw [saveAll] at h
      cases hp : p.toRecord <;> rw [hp] at h <;> cases h

/-- What can be said of an ingestion after a number of its own steps, by the exchanges that
it has had. -/
structure Course (products : List Product) (steps : Nat) (es : List Exchange)
    (program : Program (Except IngestError IngestSummary)) : Prop where
  /-- It saves its products in their order. -/
  saves : ∃ before, before <+: products ∧ Mapped before (written es)
  /-- An ingestion that is completed has saved and counted all of them. -/
  completed : ∀ summary, program = .done (.ok summary) →
    Mapped products (written es) ∧ summary.fetched = products.length ∧
      summary.saved = products.length ∧ summary.inserted = insertions es ∧
      summary.inserted + summary.updated = products.length
  /-- It stops for the first product that cannot be mapped, and for nothing else. -/
  stopped : ∀ e, program = .done (.error e) → ∃ before p after,
    products = before ++ p :: after ∧ Mapped before (written es) ∧ p.toRecord = .error e
  /-- It ends after a step for each product and one more. -/
  ends : products.length < steps → ∃ answer, program = .done answer

theorem course_of_stage (h : Stage products n es program) : Course products n es program := by
  cases h with
  | @saving before rest es counts hproducts hsaved =>
      refine ⟨⟨before, ⟨rest, hproducts.symm⟩, hsaved.mapped⟩, ?_, ?_, ?_⟩
      · exact fun _ h => absurd h (saveAll_bind_ne_done counts rest _)
      · exact fun _ h => absurd h (saveAll_bind_ne_done counts rest _)
      · intro hends
        rw [hproducts, List.length_append] at hends
        omega
  | @stopped before after p e n es counts hproducts hsaved hp hn =>
      refine ⟨⟨before, ⟨p :: after, hproducts.symm⟩, hsaved.mapped⟩, nofun, ?_, fun _ => ⟨_, rfl⟩⟩
      intro e' h
      cases h
      exact ⟨before, p, after, hproducts, hsaved.mapped, hp⟩
  | @completed n es counts hsaved hn =>
      refine ⟨⟨products, List.prefix_refl _, hsaved.mapped⟩, ?_, nofun, fun _ => ⟨_, rfl⟩⟩
      intro summary h
      cases h
      exact ⟨hsaved.mapped, rfl, hsaved.total_eq, hsaved.inserted_eq, hsaved.total_eq⟩

variable {ι : Type} [DecidableEq ι]

def together (s : Store) (products : ι → List Product) (journals : ι → Journal) :
    World ι Store (Except IngestError IngestSummary) :=
  .start s fun i => ⟨ingest (products i), journals i⟩

theorem course_together (s : Store) (products : ι → List Product) (journals : ι → Journal)
    (moves : List (Move ι)) (i : ι) :
    let w := (together s products journals).after Store.backend moves
    Course (products i) (moves.count (.advance i)) (w.exchangesOf i) (w.threads i).program := by
  apply course_of_stage
  have hstart : Stage (products i) 0 [] (ingest (products i)) := by
    rw [ingest_eq_bind]
    exact .saving rfl .nil
  exact World.thread_after (P := Stage (products i)) hstart
    (fun n es program h j s => stage_step h j s) moves

/-- An ingestion that no one interrupts ends after a step for each product and one more, and as
its run does: with the answer, the journal and the store of the run. -/
theorem ingest_alone (s : Store) (products : ι → List Product) (journals : ι → Journal) (i : ι)
    {n : ℕ} (hn : (products i).length < n) :
    let w := (together s products journals).after Store.backend (List.replicate n (.advance i))
    let run := (ingest (products i)).run Store.backend (journals i) s
    w.threads i = ⟨.ended run.result, run.journal⟩ ∧ w.state = run.state := by
  have hcourse := course_together s products journals (List.replicate n (.advance i)) i
  have hsteps : (products i).length < (List.replicate n (Move.advance i)).count (.advance i) := by
    rwa [List.count_replicate_self]
  obtain ⟨answer, hanswer⟩ := hcourse.ends hsteps
  exact World.endsIn_of_ended (r := .ok answer) hanswer

theorem exists_product_of_mem_written {w : World ι Store (Except IngestError IngestSummary)}
    {products : ι → List Product}
    (h : ∀ i, ∃ before, before <+: products i ∧ Mapped before (written (w.exchangesOf i)))
    {r : Record} (hr : r ∈ written w.exchanges) :
    ∃ i, ∃ p ∈ products i, p.toRecord = .ok r := by
  obtain ⟨e, he, hwritten⟩ := List.mem_filterMap.1 hr
  rcases World.mem_exchanges he with ⟨query, answer, rfl⟩ | ⟨i, hi⟩
  · cases hwritten
  · obtain ⟨before, hbefore, hmapped⟩ := h i
    have hri : r ∈ written (w.exchangesOf i) := List.mem_filterMap.2 ⟨e, hi, hwritten⟩
    obtain ⟨p, hp, hpr⟩ := hmapped.exists_product hri
    exact ⟨i, p, hbefore.subset hp, hpr⟩

/-- Ingestions that share a store lose nothing and count nothing twice, however their steps
interleave with one another and with looks at the store. Each of them takes its own
course, as if it were alone, and its exchanges are among those of the store. The store
conserves what they have written, which comes from their products, and the answers to
them as new sum up to its growth. A look in between is answered with the state that the
store has there. -/
theorem ingest_together [Fintype ι] (s : Store) (products : ι → List Product)
    (journals : ι → Journal) (moves : List (Move ι)) :
    let w := (together s products journals).after Store.backend moves
    (∀ i, Course (products i) (moves.count (.advance i)) (w.exchangesOf i)
      (w.threads i).program) ∧
    (∀ i, (w.exchangesOf i).Sublist w.exchanges) ∧
    (∀ r ∈ written w.exchanges, ∃ i, ∃ p ∈ products i, p.toRecord = .ok r) ∧
    Store.Conserves s w.exchanges w.state ∧
    w.state.size = s.size + ∑ i, insertions (w.exchangesOf i) ∧
    ∀ before query later, moves = before ++ .look query :: later →
      let w' := (together s products journals).after Store.backend before
      w'.past ++ [.seen query (.ok (w'.state.find query))] <+: w.past := by
  intro w
  have hserial : Store.backend.Serial s w.exchanges w.state := World.serial_after s _ moves
  have hcourse (i : ι) : Course (products i) (moves.count (.advance i)) (w.exchangesOf i)
      (w.threads i).program := course_together s products journals moves i
  refine ⟨hcourse, w.exchangesOf_sublist, fun r hr => ?_, Store.conserves_of_serial hserial, ?_, ?_⟩
  · exact exists_product_of_mem_written (fun i => (hcourse i).saves) hr
  · rw [Store.size_of_serial hserial]
    congr 1
    exact (w.sum_countP_exchangesOf fun _ _ => rfl).symm
  · rintro before query later rfl w'
    have hlook : w = (w'.step Store.backend (.look query)).after Store.backend later :=
      World.after_append before (.look query :: later)
    rw [hlook]
    exact World.past_prefix_after (w'.step Store.backend (.look query)) later

end Ingest

end CatalogRules
