import CatalogRules.Evaluation.Program
import CatalogRules.Proofs.Log.Journal

/-!
Runs of programs. A program that is followed by another one runs first, and the
other one goes on where it has ended. What a program asks of a store is taken
down by a store that keeps a list of its requests and behaves as before, and what
a program logs without asking anything of the store is known from the program alone.
-/

namespace CatalogRules

open Log (Journal Entry)

inductive StoreRequest where
  | find (query : Query)
  | upsert (record : Record)
  deriving DecidableEq

/-- A store that answers as before and keeps its requests beside its state. -/
def Backend.recorded {σ : Type} (b : Backend σ) : Backend (σ × List StoreRequest) where
  find s query :=
    let (answer, state) := b.find s.1 query
    (answer, state, s.2 ++ [.find query])
  upsert s record :=
    let (answer, state) := b.upsert s.1 record
    (answer, state, s.2 ++ [.upsert record])

namespace Program

variable {σ α β : Type} (b : Backend σ) (j : Journal) (s : σ)

def requests (p : Program α) : List StoreRequest :=
  (p.run b.recorded j (s, [])).state.2

/-- A recorded run is the run, with its requests behind those from before it. -/
theorem run_recorded (past : List StoreRequest) (p : Program α) :
    p.run b.recorded j (s, past) =
      ⟨(p.run b j s).result, (p.run b j s).journal, (p.run b j s).state,
        past ++ p.requests b j s⟩ := by
  -- For every state and every past at once: each request changes both.
  induction p generalizing j s past with
  | done a => simp [requests, run]
  | halt fault => simp [requests, run]
  | log entry next ih => exact ih (j.write entry) s past
  | exchangeRequest request next ih => exact ih j.request (j.withRequest request) s past
  | find query next ih =>
      have hrequests : (find query next).requests b j s =
          [.find query] ++ (next (b.find s query).1).requests b j (b.find s query).2 := by
        have hnext := ih (b.find s query).1 j (b.find s query).2 [.find query]
        exact congrArg (fun r => r.state.2) hnext
      rw [hrequests, ← List.append_assoc]
      exact ih (b.find s query).1 j (b.find s query).2 (past ++ [.find query])
  | upsert record next ih =>
      have hrequests : (upsert record next).requests b j s =
          [.upsert record] ++ (next (b.upsert s record).1).requests b j (b.upsert s record).2 := by
        have hnext := ih (b.upsert s record).1 j (b.upsert s record).2 [.upsert record]
        exact congrArg (fun r => r.state.2) hnext
      rw [hrequests, ← List.append_assoc]
      exact ih (b.upsert s record).1 j (b.upsert s record).2 (past ++ [.upsert record])

theorem run_bind (p : Program α) (f : α → Program β) :
    (p.bind f).run b j s = match (p.run b j s).result with
      | .ok a => (f a).run b (p.run b j s).journal (p.run b j s).state
      | .error fault => ⟨.error fault, (p.run b j s).journal, (p.run b j s).state⟩ := by
  induction p generalizing j s with
  | done a => rfl
  | halt fault => rfl
  | log entry next ih => exact ih (j.write entry) s
  | exchangeRequest request next ih => exact ih j.request (j.withRequest request) s
  | find query next ih => exact ih (b.find s query).1 j (b.find s query).2
  | upsert record next ih => exact ih (b.upsert s record).1 j (b.upsert s record).2

variable {b j s}

theorem run_bind_of_run_eq {p : Program α} {f : α → Program β} {a : α} {j' : Journal} {s' : σ}
    (h : p.run b j s = ⟨.ok a, j', s'⟩) : (p.bind f).run b j s = (f a).run b j' s' := by
  rw [run_bind, h]

/-- Within a request of its own a program ends as it does outside of it. -/
theorem run_withRequest {id : String} {p : Program α} {a : α} {j' : Journal} {s' : σ}
    (h : p.run b (j.withRequest (some id)) s = ⟨.ok a, j', s'⟩) :
    (withRequest id p).run b j s = ⟨.ok a, j'.withRequest j.request, s'⟩ :=
  run_bind_of_run_eq h

/-- The entries that a program starts with. -/
def entries : Program α → List Entry
  | log entry next => entry :: next.entries
  | _ => []

/-- Whatever the store, the program leaves it as it is, writes the entries to the
journal, and ends with the value. -/
def Logs (p : Program α) (es : List Entry) (a : α) : Prop :=
  ∀ (σ : Type) (b : Backend σ) (j : Journal) (s : σ), p.run b j s = ⟨.ok a, j.writeAll es, s⟩

theorem logs_done (a : α) : (done a).Logs [] a := fun _ _ _ _ => rfl

theorem logs_emit (entry : Entry) : (emit entry).Logs [entry] () := fun _ _ _ _ => rfl

theorem Logs.bind {p : Program α} {f : α → Program β} {es es' : List Entry} {a : α} {c : β}
    (hp : p.Logs es a) (hf : (f a).Logs es' c) : (p.bind f).Logs (es ++ es') c := by
  intro σ b j s
  rw [run_bind_of_run_eq (hp σ b j s), hf σ b _ s, Journal.writeAll_append]

theorem Logs.andThen {p : Program α} {es : List Entry} {a : α} (hp : p.Logs es a) (f : α → β) :
    (p.bind fun a => done (f a)).Logs es (f a) := by
  have h := hp.bind (f := fun a => done (f a)) (logs_done (f a))
  rwa [List.append_nil] at h

/-- Whatever the store, the program leaves it as it is, only writes to the journal,
and ends with the value. -/
def Quiet (p : Program α) (a : α) : Prop :=
  ∀ (σ : Type) (b : Backend σ) (j : Journal) (s : σ), ∃ j', p.run b j s = ⟨.ok a, j', s⟩

theorem Logs.quiet {p : Program α} {es : List Entry} {a : α} (h : p.Logs es a) : p.Quiet a :=
  fun σ b j s => ⟨_, h σ b j s⟩

end Program

end CatalogRules
