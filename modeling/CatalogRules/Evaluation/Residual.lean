import CatalogRules.Evaluation.Limits
import CatalogRules.Filter.Basic
import CatalogRules.Record.Basic

/-!
Residuals tested on the candidates that a store has returned. Only prices have
residuals; a residual on another field ends the evaluation with a fault as soon
as it is reached. Many candidates are cut into runs, one for each thread, and the
answers of the runs are put together in the order of the candidates.
-/

namespace CatalogRules

/-- A residual on a field that has none. -/
structure ResidualFault where
  field : Field
  deriving DecidableEq

def ResidualFault.message (f : ResidualFault) : String :=
  "internal error: entered unreachable code: field " ++ f.field.name ++
    " is never compiled to a residual predicate"

namespace Evaluation

/-- A price that is no number satisfies nothing. -/
def satisfies (record : Record) (r : Residual) : Except ResidualFault Bool :=
  match r.field with
  | .price =>
    match record.priceValue? with
    | some x => .ok (r.comparison.holds (x.compare? r.operand))
    | none => .ok false
  | field => .error ⟨field⟩

/-- Tests the residuals in order up to the first that fails. -/
def satisfiesAll (record : Record) : List Residual → Except ResidualFault Bool
  | [] => .ok true
  | r :: rs =>
    match satisfies record r with
    | .error e => .error e
    | .ok false => .ok false
    | .ok true => satisfiesAll record rs

/-- The answers for a run of records, up to the first fault. -/
def mask (residuals : List Residual) : List Record → Except ResidualFault (List Bool)
  | [] => .ok []
  | record :: records =>
    match satisfiesAll record residuals with
    | .error e => .error e
    | .ok keep =>
      match mask residuals records with
      | .error e => .error e
      | .ok keeps => .ok (keep :: keeps)

/-- Consecutive runs of `size + 1` elements; the last one may be shorter. -/
def runs {α : Type} (size : Nat) : List α → List (List α)
  | [] => []
  | a :: as => (a :: as.take size) :: runs size (as.drop size)
termination_by as => as.length
decreasing_by simp only [List.length_drop, List.length_cons]; omega

/-- The length of the runs that share `n` elements among the threads. -/
def runLength (n threads : Nat) : Nat := (n + (max 1 threads - 1)) / max 1 threads

def threadRuns {α : Type} (threads : Nat) (as : List α) : List (List α) :=
  runs (runLength as.length threads - 1) as

/-- Puts the answers of the runs together; of several faults the first counts. -/
def joinMasks : List (Except ResidualFault (List Bool)) → Except ResidualFault (List Bool)
  | [] => .ok []
  | .error e :: _ => .error e
  | .ok keeps :: rest =>
    match joinMasks rest with
    | .error e => .error e
    | .ok more => .ok (keeps ++ more)

def parallelMask (residuals : List Residual) (threads : Nat) (records : List Record) :
    Except ResidualFault (List Bool) :=
  joinMasks ((threadRuns threads records).map (mask residuals))

def keepMasked (records : List Record) (keeps : List Bool) : List Record :=
  (records.zip keeps).filterMap (fun (record, keep) => if keep then some record else none)

inductive Schedule where
  /-- There is nothing to test. -/
  | idle
  /-- One thread tests one candidate after the other. -/
  | sequential
  /-- Each thread tests a run of candidates. -/
  | parallel
  deriving DecidableEq

def schedule (limits : Limits) (residuals : List Residual) (records : List Record) : Schedule :=
  if residuals.isEmpty || records.isEmpty then .idle
  else if limits.isParallel records.length then .parallel
  else .sequential

/-- Keeps what the answers say, unless they end in a fault. -/
def keepAnswered (records : List Record) :
    Except ResidualFault (List Bool) → Except ResidualFault (List Record)
  | .error e => .error e
  | .ok keeps => .ok (keepMasked records keeps)

def applyResiduals (limits : Limits) (residuals : List Residual) (records : List Record) :
    Except ResidualFault (List Record) :=
  match schedule limits residuals records with
  | .idle => .ok records
  | .sequential => keepAnswered records (mask residuals records)
  | .parallel => keepAnswered records (parallelMask residuals limits.threads records)

end Evaluation

end CatalogRules
