import CatalogRules.Config.Basic
import CatalogRules.Log.Code
import CatalogRules.Store.Files
import CatalogRules.Toml.Reader

/-!
Configuration documents. A document is TOML with the tables `logging` and
`evaluation`; unknown names are passed over, and a known one of the wrong kind
spoils the document. In place of a table the values may stand in an array, in
the order of the names.
-/

namespace CatalogRules

inductive ConfigError where
  | file (path : String) (cause : FileError)
  | malformed
  deriving DecidableEq

namespace ConfigError

def message : ConfigError → String
  | file path cause =>
    "Failed to read configuration file '" ++ path ++ "': " ++ cause.message
  -- The words behind the colon are this library's own and stand for those of a TOML reader.
  | malformed => "Invalid configuration: the document cannot be used"

def code : ConfigError → String := fun _ => Code.unloadedConfiguration

end ConfigError

namespace Config

/-- The value of a name in a group of settings, or at its position; a date has
none. Nothing else is a group. -/
def setting? (group : Toml) (position : Nat) (name : String) :
    Except ConfigError (Option Toml) :=
  match group with
  | .table _ members => .ok (Toml.Members.get? members name)
  | .array items => .ok items[position]?
  | .tables front last => .ok ((front ++ [last])[position]?.map (.table .header))
  | .date => .ok none
  | _ => .error .malformed

def flag : Toml → Except ConfigError Bool
  | .boolean b => .ok b
  | _ => .error .malformed

def count : Toml → Except ConfigError Nat
  | .integer i => if 0 ≤ i then .ok i.toNat else .error .malformed
  | _ => .error .malformed

/-- Whether a value says nothing more about a name. -/
def isVoid : Toml → Bool
  | .table _ [] => true
  | .array [] => true
  | _ => false

/-- A name, alone or as a table that has nothing under it. -/
def choice {α : Type} (find : String → Option α) (v : Toml) : Except ConfigError α :=
  let found := match v with
    | .string name => find name
    | .table _ [(name, inner)] => if isVoid inner then find name else none
    | _ => none
  match found with
  | some a => .ok a
  | none => .error .malformed

def read {α : Type} (decode : Toml → Except ConfigError α) (default : α) :
    Option Toml → Except ConfigError α
  | some v => decode v
  | none => .ok default

end Config

/-- A group of settings over the ones to start from. -/
def LogPreferences.decode (start : LogPreferences) (group : Toml) :
    Except ConfigError LogPreferences := do
  let target ← Config.setting? group 0 "backend"
  let level ← Config.setting? group 1 "min_log_level"
  let logsFilters ← Config.setting? group 2 "log_compiled_filters"
  return {
    target := ← Config.read (Config.choice LogTarget.ofName?) start.target target
    level := ← Config.read (Config.choice Log.Level.ofLongName?) start.level level
    logsFilters := ← Config.read Config.flag start.logsFilters logsFilters }

def EvaluationPreferences.decode (start : EvaluationPreferences) (group : Toml) :
    Except ConfigError EvaluationPreferences := do
  let threshold ← Config.setting? group 0 "parallel_residual_threshold"
  let threads ← Config.setting? group 1 "max_residual_threads"
  return {
    threshold := ← Config.read Config.count start.threshold threshold
    threads := Evaluation.clampThreads (← Config.read Config.count start.threads threads) }

namespace Config

def decode (start : Config) (root : Toml.Members) : Except ConfigError Config := do
  return {
    logging := ← read start.logging.decode start.logging (root.get? "logging")
    evaluation := ← read start.evaluation.decode start.evaluation (root.get? "evaluation") }

def ofText (env : Environment) (text : String) : Except ConfigError Config :=
  match Toml.read? text with
  | some root => decode (ofEnvironment env) root
  | none => .error .malformed

def load (env : Environment) (fs : Files) (path : String) : Except ConfigError Config :=
  match fs.read path with
  | .error cause => .error (.file path cause)
  | .ok text => ofText env text

end Config

end CatalogRules
