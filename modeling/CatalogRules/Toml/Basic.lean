/-!
TOML values and the rules by which a document defines them. Each name of a table
is defined once. A header `[a.b]` may open a table that exists only because some
longer header went through it, and a dotted key `a.b = 1` may extend only tables
that dotted keys have made. `[[a]]` adds a table to the array of tables `a`, and
later headers that go through `a` mean its last table.
-/

namespace CatalogRules

inductive Toml.Origin where
  /-- A header of its own. -/
  | header
  /-- A header for some table inside it. -/
  | implied
  /-- A dotted key for some value inside it. -/
  | dotted
  /-- Braces; such a table is never extended. -/
  | inline
  deriving DecidableEq

inductive Toml where
  | string (value : String)
  | integer (value : Int)
  | float
  | boolean (value : Bool)
  | date
  | array (items : List Toml)
  | table (origin : Toml.Origin) (members : List (String × Toml))
  /-- An array of tables, the last one apart. -/
  | tables (front : List (List (String × Toml))) (last : List (String × Toml))

namespace Toml

abbrev Members := List (String × Toml)

namespace Members

def get? (ms : Members) (name : String) : Option Toml := List.lookup name ms

def put (name : String) (value : Toml) : Members → Members
  | [] => [(name, value)]
  | (other, old) :: rest =>
    if name = other then (name, value) :: rest else (other, old) :: put name value rest

/-- Defines a dotted key. The tables on its way may be implied ones or arrays of
tables, but the table that gets the value has to be the starting one or one that
dotted keys have made. -/
def define (value : Toml) : List String → Members → Option Members
  | [], _ => none
  | [name], ms => if (ms.get? name).isSome then none else some (ms.put name value)
  | name :: next :: key, ms =>
    match ms.get? name with
    | none => do
      let inner ← define value (next :: key) []
      return ms.put name (.table .dotted inner)
    | some (.table .dotted inner) => do
      let inner ← define value (next :: key) inner
      return ms.put name (.table .dotted inner)
    | some (.table .implied inner) =>
      if key.isEmpty then none
      else do
        let inner ← define value (next :: key) inner
        return ms.put name (.table .implied inner)
    | some (.tables front last) =>
      if key.isEmpty then none
      else do
        let last ← define value (next :: key) last
        return ms.put name (.tables front last)
    | some _ => none

/-- Changes the table at the end of a path of headers. -/
def alterAt (change : Members → Option Members) : List String → Members → Option Members
  | [], ms => change ms
  | name :: path, ms =>
    match ms.get? name with
    | none => do
      let inner ← alterAt change path []
      return ms.put name (.table .implied inner)
    | some (.table .inline _) => none
    | some (.table origin inner) => do
      let inner ← alterAt change path inner
      return ms.put name (.table origin inner)
    | some (.tables front last) => do
      let last ← alterAt change path last
      return ms.put name (.tables front last)
    | some _ => none

def openTable (name : String) (ms : Members) : Option Members :=
  match ms.get? name with
  | none => some (ms.put name (.table .header []))
  | some (.table .implied inner) => some (ms.put name (.table .header inner))
  | some _ => none

/-- Adds a table to an array of tables, the first one if there is no array. -/
def openElement (name : String) (ms : Members) : Option Members :=
  match ms.get? name with
  | none => some (ms.put name (.tables [] []))
  | some (.tables front last) => some (ms.put name (.tables (front ++ [last]) []))
  | some _ => none

end Members

inductive Statement where
  | table (path : List String) (name : String)
  | element (path : List String) (name : String)
  | assign (key : List String) (value : Toml)

/-- A document as far as it has been read: the path of the last header, and all
that has been defined. -/
structure Build where
  path : List String
  root : Members

namespace Build

def start : Build := ⟨[], []⟩

def add (b : Build) : Statement → Option Build
  | .table path name => do
    return ⟨path ++ [name], ← b.root.alterAt (Members.openTable name) path⟩
  | .element path name => do
    return ⟨path ++ [name], ← b.root.alterAt (Members.openElement name) path⟩
  | .assign key value => do
    return { b with root := ← b.root.alterAt (Members.define value key) b.path }

end Build

def ofStatements? (statements : List Statement) : Option Members :=
  (statements.foldlM Build.add .start).map Build.root

def ofAssignments? (assignments : List (List String × Toml)) : Option Members :=
  assignments.foldlM (fun ms (key, value) => ms.define value key) []

end Toml

end CatalogRules
