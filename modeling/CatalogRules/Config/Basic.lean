import CatalogRules.Evaluation.Limits
import CatalogRules.Log.Event
import CatalogRules.Rule.Value

/-!
Configuration: where log events go and from which level on, and how evaluation
may be split between threads. What no document says is taken from the variables
of the environment, and what they do not say has a default.
-/

namespace CatalogRules

inductive LogTarget where
  /-- Lines of text. -/
  | console
  /-- One JSON object a line. -/
  | structured
  /-- Lines of text with a time and a filter of their own. -/
  | facade
  | silent
  deriving DecidableEq

namespace LogTarget

def name : LogTarget → String
  | console => "console"
  | structured => "structured"
  | facade => "facade"
  | silent => "silent"

def title : LogTarget → String
  | console => "Console"
  | structured => "Structured"
  | facade => "Facade"
  | silent => "Silent"

def all : List LogTarget := [console, structured, facade, silent]

def ofName? (name : String) : Option LogTarget :=
  all.find? (fun t => t.name == name)

/-- The names that variables may use, in capital or small letters. -/
def ofVariable? (s : String) : Option LogTarget :=
  match String.ofList (Value.lowerAscii s.toList) with
  | "console" | "text" => some console
  | "structured" | "json" => some structured
  | "facade" | "log" => some facade
  | "silent" | "off" | "none" => some silent
  | _ => none

/-- The names of a target in variables, in small letters. -/
def variableNames : LogTarget → List String
  | console => ["console", "text"]
  | structured => ["structured", "json"]
  | facade => ["facade", "log"]
  | silent => ["silent", "off", "none"]

@[simp] theorem ofName?_name (t : LogTarget) : ofName? t.name = some t := by
  cases t <;> decide

theorem ofVariable?_eq_some_iff {s : String} {t : LogTarget} :
    ofVariable? s = some t ↔ String.ofList (Value.lowerAscii s.toList) ∈ t.variableNames := by
  unfold ofVariable?
  generalize String.ofList (Value.lowerAscii s.toList) = name
  constructor
  · intro h
    split at h <;> cases h <;> decide
  · intro h
    cases t <;> simp only [variableNames, List.mem_cons, List.not_mem_nil, or_false] at h
    case silent => rcases h with rfl | rfl | rfl <;> rfl
    all_goals rcases h with rfl | rfl <;> rfl

end LogTarget

namespace Log.Level

def longName : Level → String
  | error => "error"
  | warning => "warning"
  | info => "info"
  | debug => "debug"

def all : List Level := [error, warning, info, debug]

def ofLongName? (name : String) : Option Level :=
  all.find? (fun l => l.longName == name)

/-- The names and numbers that variables may use, in capital or small letters. -/
def ofVariable? (s : String) : Option Level :=
  match String.ofList (Value.lowerAscii s.toList) with
  | "error" | "0" => some error
  | "warning" | "warn" | "1" => some warning
  | "info" | "2" => some info
  | "debug" | "3" => some debug
  | _ => none

/-- The names and the number of a level in variables, in small letters. -/
def variableNames : Level → List String
  | error => ["error", "0"]
  | warning => ["warning", "warn", "1"]
  | info => ["info", "2"]
  | debug => ["debug", "3"]

@[simp] theorem ofLongName?_longName (l : Level) : ofLongName? l.longName = some l := by
  cases l <;> decide

theorem ofVariable?_eq_some_iff {s : String} {l : Level} :
    ofVariable? s = some l ↔ String.ofList (Value.lowerAscii s.toList) ∈ l.variableNames := by
  unfold ofVariable?
  generalize String.ofList (Value.lowerAscii s.toList) = name
  constructor
  · intro h
    split at h <;> cases h <;> decide
  · intro h
    cases l <;> simp only [variableNames, List.mem_cons, List.not_mem_nil, or_false] at h
    case warning => rcases h with rfl | rfl | rfl <;> rfl
    all_goals rcases h with rfl | rfl <;> rfl

end Log.Level

/-- What a program finds around it. -/
structure Environment where
  entries : List (String × String)
  /-- How many threads the machine offers. -/
  processors : Nat

def Environment.get? (env : Environment) (name : String) : Option String :=
  List.lookup name env.entries

namespace Config

def targetVariable : String := "SEGMENTS_LOG_BACKEND"

def levelVariable : String := "SEGMENTS_LOG_LEVEL"

def filtersVariable : String := "SEGMENTS_LOG_COMPILED_FILTERS"

def thresholdVariable : String := "SEGMENTS_PARALLEL_RESIDUAL_THRESHOLD"

def threadsVariable : String := "SEGMENTS_MAX_RESIDUAL_THREADS"

def readFlag? : String → Option Bool
  | "true" => some true
  | "false" => some false
  | _ => none

theorem readFlag?_eq_some_iff {s : String} {b : Bool} :
    readFlag? s = some b ↔ s = Value.booleanText b := by
  constructor
  · intro h
    unfold readFlag? at h
    split at h <;> cases h <;> rfl
  · rintro rfl
    cases b <;> rfl

def greatestCount : Nat := 0xFFFFFFFFFFFFFFFF

/-- A count of at most 64 bits, with an optional plus sign. -/
def readCount? (s : String) : Option Nat :=
  let digits := match s.toList with
    | '+' :: cs => cs
    | cs => cs
  if digits.isEmpty || !digits.all Char.isDigit then none
  else
    let n := Text.digitsValue digits
    if n ≤ greatestCount then some n else none

/-- The decimal texts of a number, with or without a plus sign and with any zeros in front. -/
def IsCount (cs : List Char) (n : Nat) : Prop :=
  ∃ digits, (cs = digits ∨ cs = '+' :: digits) ∧ digits ≠ [] ∧
    (∀ c ∈ digits, c.isDigit = true) ∧ Text.digitsValue digits = n

theorem readCount?_eq_some_iff {s : String} {n : Nat} :
    readCount? s = some n ↔ IsCount s.toList n ∧ n ≤ greatestCount := by
  constructor
  · intro h
    rw [readCount?] at h
    generalize hdigits : (match s.toList with | '+' :: cs => cs | cs => cs) = digits at h
    have hs : s.toList = digits ∨ s.toList = '+' :: digits := by
      rw [← hdigits]
      split
      · rename_i cs hcs
        exact .inr hcs
      · exact .inl rfl
    split at h
    · cases h
    · rename_i hread
      simp only [Bool.or_eq_true, List.isEmpty_iff, Bool.not_eq_true', not_or, Bool.not_eq_false,
        List.all_eq_true] at hread
      obtain ⟨hne, hall⟩ := hread
      dsimp only at h
      rw [Option.ite_none_right_eq_some, Option.some.injEq] at h
      obtain ⟨hn, rfl⟩ := h
      exact ⟨⟨digits, hs, hne, hall, rfl⟩, hn⟩
  · rintro ⟨⟨digits, hs, hne, hall, rfl⟩, hn⟩
    -- A plus sign is no digit, so it is the sign wherever it stands in front.
    have hdigits : (match s.toList with | '+' :: cs => cs | cs => cs) = digits := by
      rcases hs with hs | hs
      · rw [hs]
        split
        · cases hall '+' List.mem_cons_self
        · rfl
      · rw [hs]
        rfl
    have hempty : digits.isEmpty = false := List.isEmpty_eq_false_iff.2 hne
    have hdigit : digits.all Char.isDigit = true := List.all_eq_true.2 hall
    rw [readCount?, hdigits, hempty, hdigit]
    exact if_pos hn

end Config

structure LogPreferences where
  target : LogTarget
  level : Log.Level
  /-- Compiled filters are logged. -/
  logsFilters : Bool
  deriving DecidableEq

namespace LogPreferences

def ofEnvironment (env : Environment) : LogPreferences where
  target := ((env.get? Config.targetVariable).bind LogTarget.ofVariable?).getD .console
  level := ((env.get? Config.levelVariable).bind Log.Level.ofVariable?).getD .warning
  logsFilters := ((env.get? Config.filtersVariable).bind Config.readFlag?).getD false

/-- The preferences for whoever looks into the logging itself. -/
def summary (p : LogPreferences) : String :=
  "Logging backend: " ++ p.target.title ++ "\nMinimum level: " ++ p.level.name ++
    "\nLog compiled filters: " ++ Value.booleanText p.logsFilters ++ "\n"

def diagnostics (active : Log.Level) (p : LogPreferences) : String :=
  "=== Logging System Diagnostics ===\nInitialized: true\nActive level: " ++ active.name ++
    "\n\n" ++ p.summary

end LogPreferences

structure EvaluationPreferences where
  threshold : Nat
  threads : Nat
  deriving DecidableEq

namespace EvaluationPreferences

def ofEnvironment (env : Environment) : EvaluationPreferences where
  threshold := ((env.get? Config.thresholdVariable).bind Config.readCount?).getD
    Evaluation.defaultThreshold
  threads := Evaluation.clampThreads
    (((env.get? Config.threadsVariable).bind Config.readCount?).getD env.processors)

def limits (p : EvaluationPreferences) : Evaluation.Limits :=
  .ofPreferences p.threshold p.threads

end EvaluationPreferences

structure Config where
  logging : LogPreferences
  evaluation : EvaluationPreferences
  deriving DecidableEq

def Config.ofEnvironment (env : Environment) : Config :=
  ⟨.ofEnvironment env, .ofEnvironment env⟩

end CatalogRules
