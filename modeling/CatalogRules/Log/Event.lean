import CatalogRules.Json.Printer
import CatalogRules.Log.Code

/-!
Log events and their two written forms, a line of text and a JSON object. The
context of an event is a list of texts sorted by key.
-/

namespace CatalogRules

namespace Log

/-- Levels from the gravest on. -/
inductive Level where
  | error | warning | info | debug
  deriving DecidableEq

namespace Level

def rank : Level → Nat
  | error => 0
  | warning => 1
  | info => 2
  | debug => 3

def name : Level → String
  | error => "ERROR"
  | warning => "WARN"
  | info => "INFO"
  | debug => "DEBUG"

def admits (threshold level : Level) : Bool := level.rank ≤ threshold.rank

end Level

abbrev Context := List (String × String)

/-- Adds a text under its key; an older text under that key is replaced. -/
def Context.insert (key text : String) : Context → Context
  | [] => [(key, text)]
  | (other, old) :: rest =>
    if key = other then (key, text) :: rest
    else if key < other then (key, text) :: (other, old) :: rest
    else (other, old) :: Context.insert key text rest

structure Event where
  /-- The canonical text of the time at which it was written. -/
  time : String
  level : Level
  code : String
  message : String
  context : Context
  deriving DecidableEq

namespace Event

def line (e : Event) : String :=
  let head := "[" ++ e.level.name ++ "] " ++ e.code ++ " - " ++ e.message
  if e.context.isEmpty then head
  else head ++ " (" ++ ", ".intercalate (e.context.map (fun (k, v) => k ++ "=" ++ v)) ++ ")"

def errorData (code : String) : Json :=
  .object [
    ("caller_correctable", .bool (Code.correctable code)),
    ("description", .string (Code.description code)),
    ("recommended_action", .string (Code.action code)),
    ("severity", .string (Code.severity code).name)]

/-- The members stand in the order of their names. -/
def toJson (e : Event) : Json :=
  .object (
    [("category", .string (Code.category e.code)), ("code", .string e.code)] ++
    (if e.context.isEmpty then []
      else [("context", .object (e.context.map (fun (k, v) => (k, .string v))))]) ++
    (if e.level = .error then [("error_metadata", errorData e.code)] else []) ++
    [("level", .string e.level.name), ("message", .string e.message),
     ("timestamp", .string e.time)])

end Event

end Log

end CatalogRules
