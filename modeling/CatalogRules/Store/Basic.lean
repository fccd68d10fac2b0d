import CatalogRules.Store.Error
import CatalogRules.Store.Matching

/-!
The record store: one record for each id, in the order of the ids. Putting a
record into the store replaces the record with its id.
-/

namespace CatalogRules

inductive UpsertOutcome where
  | inserted
  | updated
  deriving DecidableEq

def UpsertOutcome.name : UpsertOutcome → String
  | inserted => "inserted"
  | updated => "updated"

structure Store where
  records : List Record
  ascending : records.Pairwise (fun a b => a.id < b.id)

namespace Store

def empty : Store := ⟨[], .nil⟩

/-- Puts a record at its place in a list that ascends. -/
def place (r : Record) : List Record → List Record
  | [] => [r]
  | s :: rest =>
    if r.id < s.id then r :: s :: rest
    else if s.id < r.id then s :: place r rest
    else r :: rest

theorem mem_place {r x : Record} {rs : List Record} (h : x ∈ place r rs) : x = r ∨ x ∈ rs := by
  induction rs with
  | nil => simpa [place] using h
  | cons s rest ih =>
    simp only [place] at h
    split at h
    · simpa using h
    · split at h
      · rcases List.mem_cons.1 h with h | h
        · simp [h]
        · rcases ih h with h | h <;> simp [h]
      · rcases List.mem_cons.1 h with h | h <;> simp [h]

theorem pairwise_place (r : Record) {rs : List Record}
    (h : rs.Pairwise (fun a b => a.id < b.id)) :
    (place r rs).Pairwise (fun a b => a.id < b.id) := by
  induction rs with
  | nil => simp [place]
  | cons s rest ih =>
    obtain ⟨hs, hrest⟩ := List.pairwise_cons.1 h
    simp only [place]
    split
    · rename_i hr
      refine List.pairwise_cons.2 ⟨fun x hx => ?_, h⟩
      rcases List.mem_cons.1 hx with rfl | hx
      · exact hr
      · exact UInt64.lt_trans hr (hs x hx)
    · split
      · rename_i hs'
        refine List.pairwise_cons.2 ⟨fun x hx => ?_, ih hrest⟩
        rcases mem_place hx with rfl | hx
        · exact hs'
        · exact hs x hx
      · rename_i h₁ h₂
        have heq : r.id = s.id := UInt64.le_antisymm (UInt64.not_lt.1 h₂) (UInt64.not_lt.1 h₁)
        exact List.pairwise_cons.2 ⟨fun x hx => heq ▸ hs x hx, hrest⟩

def insert (s : Store) (r : Record) : Store :=
  ⟨place r s.records, pairwise_place r s.ascending⟩

def get? (s : Store) (id : UInt64) : Option Record :=
  s.records.find? (fun r => r.id == id)

def size (s : Store) : Nat := s.records.length

def find (s : Store) (q : Query) : List Record :=
  s.records.filter (fun r => r.satisfiesQuery q)

def upsert (s : Store) (r : Record) : UpsertOutcome × Store :=
  (if (s.get? r.id).isSome then .updated else .inserted, s.insert r)

/-- A later record replaces an earlier one with its id. -/
def ofRecords (rs : List Record) : Store := rs.foldl insert empty

@[simp] theorem find_matchAll (s : Store) : s.find .matchAll = s.records := by
  simp [find]

end Store

end CatalogRules
