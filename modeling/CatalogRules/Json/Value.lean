import CatalogRules.Number.Layout

/-!
JSON values. Members of an object keep their order, and a number is either an
integer or a binary64 number.
-/

namespace CatalogRules

inductive Json.Number where
  | integer (value : Int)
  | float (value : Binary64)
  deriving DecidableEq

inductive Json where
  | null
  | bool (value : Bool)
  | number (value : Json.Number)
  | string (value : String)
  | array (items : List Json)
  | object (members : List (String × Json))

namespace Json

def ofNat (n : Nat) : Json := .number (.integer n)

def ofInt (i : Int) : Json := .number (.integer i)

def ofFloat (x : Binary64) : Json := .number (.float x)

def ofText? : Option String → Json
  | some s => .string s
  | none => .null

/-- A member in an object sorted by name; a later value for the same name
replaces an earlier one. -/
def insertMember (name : String) (value : Json) :
    List (String × Json) → List (String × Json)
  | [] => [(name, value)]
  | (other, old) :: rest =>
    if name = other then (name, value) :: rest
    else if name < other then (name, value) :: (other, old) :: rest
    else (other, old) :: insertMember name value rest

def sortedObject (members : List (String × Json)) : Json :=
  .object (members.foldl (fun sorted (name, value) => insertMember name value sorted) [])

end Json

end CatalogRules
