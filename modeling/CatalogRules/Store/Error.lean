import CatalogRules.Json.Decode
import CatalogRules.Log.Code
import CatalogRules.Store.Files

/-!
What can go wrong with a record store.
-/

namespace CatalogRules

inductive StoreError where
  | lockPoisoned (operation : String)
  | file (path : String) (cause : FileError)
  | json (path : String) (cause : Json.Fault)
  | duplicateId (id : UInt64) (path : String)
  | unavailable (reason : String)
  deriving DecidableEq

namespace StoreError

def message : StoreError → String
  | lockPoisoned operation => "Record store lock poisoned during " ++ operation
  | file path cause =>
    "Failed to access record file '" ++ path ++ "': " ++ cause.message
  | json path cause =>
    "Record file '" ++ path ++ "' is not a valid JSON record array: " ++ cause.message
  | duplicateId id path =>
    "Duplicate record id " ++ toString id.toNat ++ " in '" ++ path ++ "'"
  | unavailable reason => "Record store unavailable: " ++ reason

def code : StoreError → String
  | lockPoisoned _ => Code.storeLock
  | _ => Code.storeFailure

end StoreError

end CatalogRules
