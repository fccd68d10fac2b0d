import CatalogRules.Log.Event
import CatalogRules.Text.Clip

/-!
The journal takes down log entries as events. An entry below its threshold is
dropped. Long texts in the context are clipped, and while a request is being
evaluated every event carries its id.
-/

namespace CatalogRules.Log

/-- What is to be logged, before it is taken down. -/
structure Entry where
  level : Level
  code : String
  message : String
  context : List (String × String)
  deriving DecidableEq

namespace Entry

def error (code message : String) (context : List (String × String)) : Entry :=
  ⟨.error, code, message, context⟩

def success (code message : String) (context : List (String × String)) : Entry :=
  ⟨.info, code, message, context⟩

def info (message : String) (context : List (String × String)) : Entry :=
  ⟨.info, Code.plainInfo, message, context⟩

def warning (message : String) (context : List (String × String)) : Entry :=
  ⟨.warning, Code.plainWarning, message, context⟩

def debug (message : String) (context : List (String × String)) : Entry :=
  ⟨.debug, Code.plainDebug, message, context⟩

end Entry

/-- The longest text that the context of an event takes unclipped. -/
def contextLimit : Nat := 256

def clipText (s : String) : String := Text.clip contextLimit s

structure Journal where
  threshold : Level
  /-- The time that events are marked with. -/
  time : String
  /-- The request that is being evaluated. -/
  request : Option String
  /-- From the first to the last. -/
  events : List Event

inductive OpenFault where
  | alreadyOpen
  deriving DecidableEq

def OpenFault.message : OpenFault → String
  | alreadyOpen => "Global logger already initialized"

namespace Journal

def empty (threshold : Level) (time : String) : Journal := ⟨threshold, time, none, []⟩

def eventContext (request : Option String) (entries : List (String × String)) : Context :=
  let clipped := entries.foldl (fun c (k, v) => Context.insert k (clipText v) c) []
  match request with
  | some id => Context.insert "request_id" id clipped
  | none => clipped

def eventOf (j : Journal) (e : Entry) : Event :=
  ⟨j.time, e.level, e.code, e.message, eventContext j.request e.context⟩

def add (j : Journal) (e : Event) : Journal :=
  if j.threshold.admits e.level then { j with events := j.events ++ [e] } else j

def write (j : Journal) (e : Entry) : Journal := j.add (j.eventOf e)

def withRequest (j : Journal) (request : Option String) : Journal :=
  { j with request := request }

def openingEntry : Entry :=
  .success Code.initialized "Global logging system initialized" []

def opened (threshold : Level) (time : String) : Journal :=
  (empty threshold time).write openingEntry

/-- Opens the log of a program, which has at most one. -/
def openOnce (current : Option Journal) (threshold : Level) (time : String) :
    Except OpenFault Journal :=
  match current with
  | none => .ok (opened threshold time)
  | some _ => .error .alreadyOpen

end Journal

end CatalogRules.Log
