import CatalogRules.Evaluation.Program

/-!
A backend that lets a number of operations through and fails from then on. It
shows how evaluation and ingestion meet a store that becomes unavailable.
-/

namespace CatalogRules

structure Outage where
  /-- How many operations still reach the store. -/
  remaining : Nat
  reason : String
  deriving DecidableEq

/-- A state of the backend together with the outage that is on its way, if one
is. -/
structure Fragile (σ : Type) where
  state : σ
  outage : Option Outage

namespace Backend

variable {σ α : Type}

def guarded (operation : σ → Except StoreError α × σ) (s : Fragile σ) :
    Except StoreError α × Fragile σ :=
  match s.outage with
  | none =>
    let (answer, state) := operation s.state
    (answer, ⟨state, none⟩)
  | some ⟨0, reason⟩ => (.error (.unavailable reason), s)
  | some ⟨remaining + 1, reason⟩ =>
    let (answer, state) := operation s.state
    (answer, ⟨state, some ⟨remaining, reason⟩⟩)

def fragile (b : Backend σ) : Backend (Fragile σ) where
  find s q := guarded (fun state => b.find state q) s
  upsert s r := guarded (fun state => b.upsert state r) s

end Backend

end CatalogRules
