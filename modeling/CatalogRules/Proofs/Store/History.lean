import CatalogRules.Proofs.Store.Contents

/-!
Histories of a store. A store that is made of a list of records and then accessed
any number of times is told by the records written so far: the last one written with
an id stands under it, every access is answered from this history, and only the
accesses that write a record add to it.
-/

namespace CatalogRules.Store

inductive Access where
  | upsert (record : Record)
  | get (id : UInt64)
  | find (query : Query)
  | size

inductive Answer where
  | outcome (value : UpsertOutcome)
  | record (value : Option Record)
  | records (value : List Record)
  | size (value : Nat)

def access (s : Store) : Access → Answer × Store
  | .upsert r => (.outcome (s.upsert r).1, (s.upsert r).2)
  | .get id => (.record (s.get? id), s)
  | .find q => (.records (s.find q), s)
  | .size => (.size s.size, s)

def after (s : Store) (accesses : List Access) : Store :=
  accesses.foldl (fun s a => (s.access a).2) s

def Access.written : Access → List Record
  | upsert r => [r]
  | _ => []

/-- What an access is answered when the given records have been written before. -/
def Answers (history : List Record) : Access → Answer → Prop
  | .upsert r, .outcome outcome =>
      outcome = if r.id ∈ history.map Record.id then .updated else .inserted
  | .get id, .record found => found = latest? id history
  | .find q, .records found =>
      found.Pairwise (fun a b => a.id < b.id) ∧
        ∀ r, r ∈ found ↔ latest? r.id history = some r ∧ r.satisfiesQuery q = true
  | .size, .size n => n = (history.map Record.id).toFinset.card
  | _, _ => False

theorem mem_find_ofRecords {history : List Record} {q : Query} {r : Record} :
    r ∈ (ofRecords history).find q ↔
      latest? r.id history = some r ∧ r.satisfiesQuery q = true := by
  rw [find, List.mem_filter, mem_records_iff, get?_ofRecords]

theorem answers_access (history : List Record) (a : Access) :
    Answers history a ((ofRecords history).access a).1 := by
  cases a with
  | upsert r =>
      simp only [Answers, access, upsert, get?_ofRecords, isSome_latest?_iff]
  | get id => exact get?_ofRecords history id
  | find q => exact ⟨(ofRecords history).ascending.filter _, fun r => mem_find_ofRecords⟩
  | size => exact size_ofRecords history

theorem access_ofRecords (history : List Record) (a : Access) :
    ((ofRecords history).access a).2 = ofRecords (history ++ a.written) := by
  cases a with
  | upsert r => exact (ofRecords_append history [r]).symm
  | _ => simp [access, Access.written]

theorem after_ofRecords (history : List Record) (accesses : List Access) :
    (ofRecords history).after accesses =
      ofRecords (history ++ accesses.flatMap Access.written) := by
  induction accesses generalizing history with
  | nil => simp [after]
  | cons a accesses ih =>
      have hstep : (ofRecords history).after (a :: accesses) =
          ((ofRecords history).access a).2.after accesses := rfl
      rw [hstep, access_ofRecords, ih, List.flatMap_cons, List.append_assoc]

/-- A store in memory is a map in which the last record written counts. However it
was made and accessed, it keeps every record under the id of the record and nothing
else, answers every further access from the records written so far, and is changed by
the accesses that write alone. -/
theorem told_by_history (init : List Record) (accesses : List Access) :
    let s := (ofRecords init).after accesses
    let history := init ++ accesses.flatMap Access.written
    (∀ r ∈ s.records, s.get? r.id = some r) ∧
    (∀ i r, s.get? i = some r → r.id = i) ∧
    (∀ a, Answers history a (s.access a).1) ∧
    ∀ a, (s.access a).2 = a.written.foldl insert s := by
  intro s history
  have hs : s = ofRecords history := after_ofRecords init accesses
  refine ⟨fun r hr => get?_of_mem hr, fun i r hr => id_of_get? hr, fun a => ?_, fun a => ?_⟩
  · rw [hs]
    exact answers_access history a
  · cases a <;> rfl

end CatalogRules.Store
