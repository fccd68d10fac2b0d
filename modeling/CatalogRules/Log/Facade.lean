import CatalogRules.Log.Event
import CatalogRules.Pattern.Reader
import CatalogRules.Text.Blank
import CatalogRules.Text.Printable
import CatalogRules.Text.Split

/-!
The log lines of a program that shares its log with others. Each line names its
time, level and target, and a filter decides which lines are written. The filter
is a text: levels for all targets or for those with a given start, parted by
commas, and after a slash a pattern that has to occur in the message. Of several
levels that fit a target the one for the longest start counts, and of two for
starts of one length the later one.
-/

namespace CatalogRules.Log.Facade

/-- The levels that a filter may name, from nothing to everything. -/
inductive Ceiling where
  | off | error | warning | info | debug | trace
  deriving DecidableEq

namespace Ceiling

def rank : Ceiling → Nat
  | off => 0
  | error => 1
  | warning => 2
  | info => 3
  | debug => 4
  | trace => 5

def ofLevel : Level → Ceiling
  | .error => error
  | .warning => warning
  | .info => info
  | .debug => debug

def ofName? (name : List Char) : Option Ceiling :=
  match String.ofList (name.map Char.toLower) with
  | "off" => some off
  | "error" => some error
  | "warn" => some warning
  | "info" => some info
  | "debug" => some debug
  | "trace" => some trace
  | _ => none

end Ceiling

/-- A level for the targets that start with a text, or for all of them. -/
structure Directive where
  target : Option (List Char)
  ceiling : Ceiling
  deriving DecidableEq

/-- A filter, and the parts of its text that say nothing. -/
structure Filter where
  directives : List Directive
  /-- What has to occur in a message. -/
  pattern : Pattern
  complaints : List String
  deriving DecidableEq

namespace Filter

def complaint (part : List Char) : String :=
  "invalid logging spec '" ++ String.ofList part ++ "'"

def readPart (part : List Char) : Except String Directive :=
  match Text.splitAt '=' part with
  | [name] =>
    match Ceiling.ofName? name with
    | some c => .ok ⟨none, c⟩
    | none => .ok ⟨some name, .trace⟩
  | [name, level] =>
    let level := Text.trimChars level
    if level.isEmpty then .ok ⟨some name, .trace⟩
    else match Ceiling.ofName? level with
      | some c => .ok ⟨some name, c⟩
      | none => .error (complaint level)
  | _ => .error (complaint part)

/-- Adds a directive; one for the same target is replaced. -/
def place (d : Directive) : List Directive → List Directive
  | [] => [d]
  | e :: es => if d.target = e.target then d :: es else e :: place d es

def addPart (f : Filter) (part : List Char) : Filter :=
  match readPart part with
  | .ok d => { f with directives := place d f.directives }
  | .error c => { f with complaints := f.complaints ++ [c] }

def readParts (parts : List Char) : Filter :=
  let pieces := ((Text.splitAt ',' parts).map Text.trimChars).filter (fun p => !p.isEmpty)
  pieces.foldl addPart ⟨[], .empty, []⟩

/-- Adds the pattern of a text; one that cannot be read is left out. -/
def addPattern (f : Filter) (text : List Char) : Filter :=
  let text := String.ofList text
  match Pattern.read text with
  | .ok p => { f with pattern := p }
  | .error e =>
    { f with complaints := f.complaints ++ ["invalid regex filter - " ++ e.message text] }

/-- A filter without directives lets errors through. -/
def withDefault (f : Filter) : Filter :=
  if f.directives.isEmpty then { f with directives := [⟨none, .error⟩] } else f

def read (s : String) : Filter :=
  withDefault <| match Text.splitAt '/' s.toList with
    | [parts] => readParts parts
    | [parts, pattern] => (readParts parts).addPattern pattern
    | _ => ⟨[], .empty, [complaint s.toList ++ " (too many '/'s)"]⟩

/-- Of two directives that fit, the later one if its start is no shorter. -/
def prefer (best : Option Directive) (d : Directive) : Option Directive :=
  match best with
  | none => some d
  | some b =>
    if (b.target.getD []).length ≤ (d.target.getD []).length then some d else some b

def fits (target : List Char) (d : Directive) : Bool :=
  match d.target with
  | some start => start.isPrefixOf target
  | none => true

def ceiling (f : Filter) (target : String) : Ceiling :=
  match (f.directives.filter (fits target.toList)).foldl prefer none with
  | some d => d.ceiling
  | none => .off

def admits (f : Filter) (target : String) (level : Level) (message : String) : Bool :=
  (Ceiling.ofLevel level).rank ≤ (f.ceiling target).rank && f.pattern.occursIn message

end Filter

structure Message where
  level : Level
  text : String
  deriving DecidableEq

def ofEvent (e : Event) : Message := ⟨e.level, e.line⟩

/-- The target that every message here has. -/
def target : String := "segments"

/-- The name of a level, five characters wide. -/
def paddedName : Level → String
  | .error => "ERROR"
  | .warning => "WARN "
  | .info => "INFO "
  | .debug => "DEBUG"

/-- Whether lines are coloured. The style says so; without one they are if colours are
wanted even where they may not show, and nothing says that they are unwanted. -/
def isColoured (style unwanted wanted : Option String) : Bool :=
  match style with
  | some "always" => true
  | some "never" => false
  | _ => !unwanted.any (· ≠ "") && wanted.any (· ≠ "")

def levelColour : Level → String
  | .error => "\x1b[1m\x1b[31m"
  | .warning => "\x1b[33m"
  | .info => "\x1b[32m"
  | .debug => "\x1b[34m"

def faint : String := "\x1b[90m"

def paint (coloured : Bool) (start text : String) : String :=
  if coloured then start ++ text ++ "\x1b[0m" else text

/-- A message as it is written; its second and later lines are indented. -/
def line (coloured : Bool) (time : String) (m : Message) : String :=
  paint coloured faint "[" ++ time ++ " " ++
    paint coloured (levelColour m.level) (paddedName m.level) ++ " " ++ target ++
      paint coloured faint "]" ++ " " ++ "\n    ".intercalate (Text.split '\n' m.text)

/-- What is written for the messages that a filter admits. Without colours, control
sequences in a message are left out as well, with the end of its line if they go on
that far. -/
def output (f : Filter) (coloured : Bool) (time : String) (messages : List Message) : String :=
  String.join <| (messages.filter (fun m => f.admits target m.level m.text)).map fun m =>
    let text := line coloured time m ++ "\n"
    if coloured then text else Text.printable text

def warnings (f : Filter) : String :=
  String.join (f.complaints.map (fun c => "warning: " ++ c ++ ", ignoring it\n"))

end CatalogRules.Log.Facade
