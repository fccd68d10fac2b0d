import CatalogRules.Evaluation.Program
import CatalogRules.Ingest.Mapping

/-!
Ingestion of products: each one is mapped and put into the store, one after the
other, and the first failure ends the run.
-/

namespace CatalogRules

structure IngestSummary where
  fetched : Nat
  saved : Nat
  inserted : Nat
  updated : Nat
  deriving DecidableEq

namespace Ingest

structure Counts where
  inserted : Nat
  updated : Nat
  deriving DecidableEq

namespace Counts

def zero : Counts := ⟨0, 0⟩

def add (c : Counts) : UpsertOutcome → Counts
  | .inserted => { c with inserted := c.inserted + 1 }
  | .updated => { c with updated := c.updated + 1 }

end Counts

def logRejected (p : Product) (e : IngestError) : Program Unit :=
  .emit (.error e.code "Source product rejected"
    [("id", toString p.id.toNat), ("error", e.message)])

def logComplete (s : IngestSummary) : Program Unit :=
  .emit (.success Code.ingestionComplete "Catalog ingestion complete"
    [("fetched", toString s.fetched),
     ("inserted", toString s.inserted),
     ("updated", toString s.updated)])

def saveAll (counts : Counts) : List Product → Program (Except IngestError Counts)
  | [] => .done (.ok counts)
  | p :: ps =>
    match p.toRecord with
    | .error e => do
      logRejected p e
      return .error e
    | .ok record =>
      .upsert record fun answer =>
        match answer with
        | .error e => .done (.error (.store e))
        | .ok outcome => saveAll (counts.add outcome) ps

def ingest (products : List Product) : Program (Except IngestError IngestSummary) := do
  match ← saveAll .zero products with
  | .error e => return .error e
  | .ok counts =>
    let summary : IngestSummary :=
      ⟨products.length, counts.inserted + counts.updated, counts.inserted, counts.updated⟩
    logComplete summary
    return .ok summary

def ingestText (text : String) : Program (Except IngestError IngestSummary) :=
  match Product.ofText text with
  | .error fault => .done (.error (.decode fault))
  | .ok products => ingest products

def ingestFile (fs : Files) (path : String) : Program (Except IngestError IngestSummary) :=
  match fs.read path with
  | .error cause => .done (.error (.file path cause))
  | .ok text => ingestText text

end Ingest

end CatalogRules
