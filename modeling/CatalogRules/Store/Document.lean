import CatalogRules.Record.Codec
import CatalogRules.Store.Basic

/-!
Record files: a JSON array of records with distinct ids. A file that is not
there stands for an empty store.
-/

namespace CatalogRules.Store

/-- The first id in the list that has occurred before; `seen` are the ids before
the list. -/
def firstRepeated? (seen : List UInt64) : List Record → Option UInt64
  | [] => none
  | r :: rs => if r.id ∈ seen then some r.id else firstRepeated? (r.id :: seen) rs

def ofText (path text : String) : Except StoreError Store :=
  match Json.decodeText Record.decodeList text with
  | .error fault => .error (.json path fault)
  | .ok records =>
    match firstRepeated? [] records with
    | some id => .error (.duplicateId id path)
    | none => .ok (ofRecords records)

def toText (s : Store) : String := (Record.listToJson s.records).pretty

def load (fs : Files) (path : String) : Except StoreError Store :=
  if !fs.has path then .ok empty
  else match fs.read path with
    | .error cause => .error (.file path cause)
    | .ok text => ofText path text

def save (fs : Files) (path : String) (s : Store) : Except StoreError Files :=
  match fs.write path s.toText with
  | .error cause => .error (.file path cause)
  | .ok fs => .ok fs

end CatalogRules.Store
