import CatalogRules.Evaluation.Residual
import CatalogRules.Log.Journal
import CatalogRules.Store.Basic

/-!
Programs over a record store. A program is the tree of what it asks of the store
and of the journal, branching over the answers, so that it can be run on any
backend and interleaved with others one request at a time.
-/

namespace CatalogRules

inductive Program (α : Type) where
  | done (value : α)
  | halt (fault : ResidualFault)
  | log (entry : Log.Entry) (next : Program α)
  /-- Makes another request the current one; the answer is the one before. -/
  | exchangeRequest (request : Option String) (next : Option String → Program α)
  | find (query : Query) (next : Except StoreError (List Record) → Program α)
  | upsert (record : Record) (next : Except StoreError UpsertOutcome → Program α)

namespace Program

def bind {α β : Type} (p : Program α) (f : α → Program β) : Program β :=
  match p with
  | done a => f a
  | halt fault => halt fault
  | log entry next => log entry (next.bind f)
  | exchangeRequest request next => exchangeRequest request (fun r => (next r).bind f)
  | find query next => find query (fun r => (next r).bind f)
  | upsert record next => upsert record (fun r => (next r).bind f)

instance : Monad Program where
  pure := done
  bind := bind

def emit (entry : Log.Entry) : Program Unit := log entry (done ())

/-- Runs a program as part of a request, and returns to the request before it. -/
def withRequest {α : Type} (id : String) (p : Program α) : Program α :=
  exchangeRequest (some id) fun before =>
    p.bind fun a => exchangeRequest before fun _ => done a

end Program

/-- A record store with states `σ`. Each operation may fail and may change the
state. -/
structure Backend (σ : Type) where
  find : σ → Query → Except StoreError (List Record) × σ
  upsert : σ → Record → Except StoreError UpsertOutcome × σ

/-- The store in memory never fails. -/
def Store.backend : Backend Store where
  find s q := (.ok (s.find q), s)
  upsert s r :=
    let (outcome, s) := s.upsert r
    (.ok outcome, s)

structure Run (σ α : Type) where
  result : Except ResidualFault α
  journal : Log.Journal
  state : σ

namespace Program

def run {σ α : Type} (backend : Backend σ) (journal : Log.Journal) (state : σ) :
    Program α → Run σ α
  | done a => ⟨.ok a, journal, state⟩
  | halt fault => ⟨.error fault, journal, state⟩
  | log entry next => run backend (journal.write entry) state next
  | exchangeRequest request next =>
    run backend (journal.withRequest request) state (next journal.request)
  | find query next =>
    let (answer, state) := backend.find state query
    run backend journal state (next answer)
  | upsert record next =>
    let (answer, state) := backend.upsert state record
    run backend journal state (next answer)

@[simp] theorem run_done {σ α : Type} (b : Backend σ) (j : Log.Journal) (s : σ) (a : α) :
    run b j s (done a) = ⟨.ok a, j, s⟩ := rfl

end Program

end CatalogRules
