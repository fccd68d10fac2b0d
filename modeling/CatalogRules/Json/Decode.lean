import CatalogRules.Json.Draft

/-!
Decoding of drafts into typed values. A structure may be written as an object,
with its members in any order and unknown ones passed over, or as an array of its
fields in their order, the last ones left out. Everything is decoded in the order
of the text, so the first problem decides.
-/

namespace CatalogRules.Json

inductive Fault where
  | defect (d : Defect)
  | mistyped (expected : String)
  | missingField (name : String)
  | repeatedField (name : String)
  /-- More items than the structure has fields. -/
  | surplus
  deriving DecidableEq

/-- What kind of problem a text has. -/
inductive Category where
  | form
  | ending
  | type
  deriving DecidableEq

namespace Fault

def category : Fault → Category
  | defect .malformed => .form
  | defect .incomplete => .ending
  | surplus => .form
  | mistyped _ | missingField _ | repeatedField _ => .type

/-- The words for a fault are this library's own and stand where those of a JSON reader would be
quoted. -/
def message : Fault → String
  | defect .malformed => "the text is not JSON"
  | defect .incomplete => "the text ends too early"
  | mistyped expected => "expected " ++ expected
  | missingField name => "the field " ++ name ++ " is missing"
  | repeatedField name => "the field " ++ name ++ " occurs twice"
  | surplus => "there are more items than fields"

end Fault

abbrev Decoder (α : Type) := Draft → Except Fault α

def Flaw.fault (flaw : Flaw) : Fault := .defect flaw.used

/-- A list of parts has to end without a flaw. -/
def checkCut : Option Flaw → Except Fault Unit
  | none => .ok ()
  | some flaw => .error flaw.fault

def checkPassed (flaw : Flaw) : Except Fault Unit :=
  match flaw.passed with
  | none => .ok ()
  | some d => .error (.defect d)

namespace Draft

def refuse (expected : String) : Draft → Fault
  | flawed flaw => flaw.fault
  | _ => .mistyped expected

mutual

def pass : Draft → Except Fault Unit
  | array items cut =>
    match passItems items with
    | .error e => .error e
    | .ok () => passCut cut
  | object members cut =>
    match passMembers members with
    | .error e => .error e
    | .ok () => passCut cut
  | flawed flaw => checkPassed flaw
  | _ => .ok ()

def passItems : List Draft → Except Fault Unit
  | [] => .ok ()
  | d :: ds =>
    match pass d with
    | .error e => .error e
    | .ok () => passItems ds

def passMembers : List (Option String × Draft) → Except Fault Unit
  | [] => .ok ()
  | (_, d) :: ms =>
    match pass d with
    | .error e => .error e
    | .ok () => passMembers ms

def passCut : Option Flaw → Except Fault Unit
  | none => .ok ()
  | some flaw => checkPassed flaw

end

mutual

/-- The value of a draft with at most `depth` containers inside each other.
Members of objects are sorted by name, and the last one of a name counts. -/
def value (depth : Nat) : Draft → Except Fault Json
  | null => .ok .null
  | bool b => .ok (.bool b)
  | number n => .ok (.number n)
  | string s => .ok (.string s)
  | array items cut =>
    match depth with
    | 0 => .error (.defect .malformed)
    | depth + 1 => do
      let items ← valueItems depth items
      checkCut cut
      return .array items
  | object members cut =>
    match depth with
    | 0 => .error (.defect .malformed)
    | depth + 1 => do
      let members ← valueMembers depth members
      checkCut cut
      return .sortedObject members
  | flawed flaw => .error flaw.fault

def valueItems (depth : Nat) : List Draft → Except Fault (List Json)
  | [] => .ok []
  | d :: ds => do
    let v ← value depth d
    let vs ← valueItems depth ds
    return v :: vs

def valueMembers (depth : Nat) :
    List (Option String × Draft) → Except Fault (List (String × Json))
  | [] => .ok []
  | (none, _) :: _ => .error (.defect .malformed)
  | (some name, d) :: ms => do
    let v ← value depth d
    let vs ← valueMembers depth ms
    return (name, v) :: vs

end

end Draft

/-- How deep the containers of a text may be nested in each other. -/
def depthLimit : Nat := 127

namespace Decode

def flag : Decoder Bool
  | .bool b => .ok b
  | d => .error (d.refuse "a boolean")

def text : Decoder String
  | .string s => .ok s
  | d => .error (d.refuse "a string")

def integerBetween (low high : Int) (expected : String) : Decoder Int
  | .number (.integer i) =>
    if low ≤ i ∧ i ≤ high then .ok i else .error (.mistyped expected)
  | d => .error (d.refuse expected)

def unsigned : Decoder UInt64 := fun d =>
  (integerBetween 0 greatestInteger "an integer from 0 to 2^64 - 1" d).map
    (fun i => UInt64.ofNat i.toNat)

def signed : Decoder Int64 := fun d =>
  (integerBetween leastInteger 0x7FFFFFFFFFFFFFFF "an integer from -2^63 to 2^63 - 1" d).map
    Int64.ofInt

/-- A number of any form as a binary64 number. -/
def float : Decoder Binary64
  | .number (.float x) => .ok x
  | .number (.integer i) => .ok (.ofInt i)
  | d => .error (d.refuse "a number")

def optional {α : Type} (decode : Decoder α) : Decoder (Option α)
  | .null => .ok none
  | d => (decode d).map some

def items {α : Type} (decode : Decoder α) : List Draft → Except Fault (List α)
  | [] => .ok []
  | d :: ds => do
    let a ← decode d
    let as ← items decode ds
    return a :: as

def list {α : Type} (decode : Decoder α) : Decoder (List α)
  | .array ds cut => do
    let as ← items decode ds
    checkCut cut
    return as
  | d => .error (d.refuse "an array")

def nameIn {α : Type} (find : String → Option α) (expected name : String) : Except Fault α :=
  match find name with
  | some a => .ok a
  | none => .error (.mistyped expected)

/-- One of a closed list of names, alone or as `{"name": null}`. -/
def named {α : Type} (find : String → Option α) (expected : String) : Decoder α
  | .string s
  | .object [(some s, .null)] none => nameIn find expected s
  | d => .error (d.refuse expected)

/-- The same, but an empty object may stand for `null`. -/
def namedLoosely {α : Type} (find : String → Option α) (expected : String) : Decoder α
  | .object [(some s, .object [] none)] none => nameIn find expected s
  | d => named find expected d

/-- A field of a structure: its name, and what its value has to be. -/
structure Field where
  name : String
  check : Draft → Except Fault Unit

def Field.of {α : Type} (name : String) (decode : Decoder α) : Field :=
  ⟨name, fun d => (decode d).map (fun _ => ())⟩

/-- The fields that a structure was written with. -/
abbrev Fields := List (String × Draft)

/-- Checks the members of an object; `seen` are the known ones before them. -/
def membersOf (shape : List Field) (seen : List String) :
    List (Option String × Draft) → Except Fault Fields
  | [] => .ok []
  | (none, _) :: _ => .error (.defect .malformed)
  | (some name, d) :: ms =>
    match shape.find? (fun f => f.name == name) with
    | none => do
      d.pass
      membersOf shape seen ms
    | some f =>
      if name ∈ seen then .error (.repeatedField name)
      else do
        f.check d
        let rest ← membersOf shape (name :: seen) ms
        return (name, d) :: rest

def itemsOf (cut : Option Flaw) : List Field → List Draft → Except Fault Fields
  | _, [] => do
    checkCut cut
    return []
  | [], _ :: _ => .error .surplus
  | f :: shape, d :: ds => do
    f.check d
    let rest ← itemsOf cut shape ds
    return (f.name, d) :: rest

def fields (expected : String) (shape : List Field) : Decoder Fields
  | .object members cut => do
    let found ← membersOf shape [] members
    checkCut cut
    return found
  | .array items cut => itemsOf cut shape items
  | d => .error (d.refuse expected)

def Fields.get? (found : Fields) (name : String) : Option Draft :=
  List.lookup name found

def Fields.required {α : Type} (found : Fields) (name : String) (decode : Decoder α) :
    Except Fault α :=
  match found.get? name with
  | some d => decode d
  | none => .error (.missingField name)

/-- A field that may be left out. -/
def Fields.withDefault {α : Type} (found : Fields) (name : String) (decode : Decoder α)
    (default : α) : Except Fault α :=
  match found.get? name with
  | some d => decode d
  | none => .ok default

end Decode

/-- Decodes a whole text. What follows the value is a problem only if the value
decodes. -/
def decodeText {α : Type} (decode : Decoder α) (s : String) : Except Fault α := do
  let document := readDocument s.toList
  let a ← decode document.root
  if document.hasMore then .error (.defect .malformed) else .ok a

end CatalogRules.Json
