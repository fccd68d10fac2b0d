import CatalogRules.Evaluation.Program
import CatalogRules.Rule.RuleSet

/-!
Evaluation of a rule text: the text is compiled, the store is asked once for the
candidates, and the residuals are tested on them. A rejected text never reaches
the store, and a failed query is not repeated.
-/

namespace CatalogRules

inductive EvaluationError where
  | rules (cause : RuleSetError)
  | store (cause : StoreError)
  deriving DecidableEq

namespace EvaluationError

def message : EvaluationError → String
  | rules cause => "Invalid segment rules: " ++ cause.message
  | store cause => "Record store error: " ++ cause.message

def userMessage : EvaluationError → String
  | rules cause => cause.userMessage
  | store cause => "Failed to query records: " ++ cause.message

def code : EvaluationError → String
  | rules cause => cause.code
  | store cause => cause.code

/-- The fault lies in the submitted rules. -/
def isClientError : EvaluationError → Bool
  | rules _ => true
  | store _ => false

def isSystemError : EvaluationError → Bool
  | rules _ => false
  | store _ => true

def status (e : EvaluationError) : Nat := if e.isClientError then 400 else 500

end EvaluationError

namespace Evaluation

structure Settings where
  limits : Limits
  /-- Compiled filters are logged. -/
  logsFilters : Bool
  /-- The milliseconds that the log gives for a step. -/
  elapsed : String

structure Statistics where
  conditions : Nat
  storeClauses : Nat
  residuals : Nat
  candidates : Nat
  matched : Nat
  parallel : Bool
  deriving DecidableEq

structure Outcome where
  requestId : String
  records : List Record
  statistics : Statistics
  deriving DecidableEq

def logRead (conditions : List Condition) : Program Unit :=
  .emit (.success Code.rulesParsed "Rule lines parsed"
    [("conditions", toString conditions.length)])

def logFilter (filter : Filter) : Program Unit :=
  .emit (.debug "Compiled store query"
    [("store_query", filter.query.display),
     ("residuals", Residual.displayAll filter.residuals)])

def logRuleSet (settings : Settings) (rules : RuleSet) : Program Unit := do
  Program.emit (.success Code.filterCompiled "Rule set compiled"
    [("conditions", toString rules.conditions.length),
     ("store_clauses", toString rules.filter.query.clauses.length),
     ("residuals", toString rules.filter.residuals.length),
     ("duration_ms", settings.elapsed)])
  if settings.logsFilters then logFilter rules.filter else pure ()

def logRejection (e : RuleSetError) : Program Unit :=
  .emit (.error e.code "Rule set rejected" [("error", e.message)])

def readRules (text : String) : Program (Except RuleSetError (List Condition)) := do
  match RuleSet.read text with
  | .error e => return .error e
  | .ok conditions =>
    logRead conditions
    return .ok conditions

def processRules (settings : Settings) (text : String) :
    Program (Except RuleSetError RuleSet) := do
  match ← readRules text with
  | .error e =>
    logRejection e
    return .error e
  | .ok conditions =>
    match RuleSet.ofConditions conditions with
    | .error e =>
      logRejection e
      return .error e
    | .ok rules =>
      logRuleSet settings rules
      return .ok rules

def logCandidates (rules : RuleSet) (candidates : Nat) (parallel : Bool) : Program Unit :=
  .emit (.debug "Store query executed"
    [("store_query", rules.filter.query.display),
     ("candidates", toString candidates),
     ("parallel_residuals", Value.booleanText parallel)])

def logEvaluated (settings : Settings) (s : Statistics) : Program Unit :=
  .emit (.success Code.evaluationComplete "Segment evaluated"
    [("conditions", toString s.conditions),
     ("candidates", toString s.candidates),
     ("matched", toString s.matched),
     ("duration_ms", settings.elapsed)])

def finish (settings : Settings) (id : String) (rules : RuleSet) (candidates : List Record) :
    Program Outcome := do
  let residuals := rules.filter.residuals
  let parallel := !residuals.isEmpty && settings.limits.isParallel candidates.length
  logCandidates rules candidates.length parallel
  match applyResiduals settings.limits residuals candidates with
  | .error fault => .halt fault
  | .ok records =>
    let statistics : Statistics := {
      conditions := rules.conditions.length
      storeClauses := rules.filter.query.clauses.length
      residuals := residuals.length
      candidates := candidates.length
      matched := records.length
      parallel := parallel }
    logEvaluated settings statistics
    return ⟨id, records, statistics⟩

def logFailure (e : EvaluationError) : Program Unit :=
  .emit (.error e.code "Segment evaluation failed" [("error", e.userMessage)])

/-- What follows the answer of the store. -/
def conclude (settings : Settings) (id : String) (rules : RuleSet) :
    Except StoreError (List Record) → Program (Except EvaluationError Outcome)
  | .error e => do
    logFailure (.store e)
    return .error (.store e)
  | .ok candidates => do
    let outcome ← finish settings id rules candidates
    return .ok outcome

/-- The evaluation of a rule text, without its request. -/
def steps (settings : Settings) (id text : String) :
    Program (Except EvaluationError Outcome) := do
  match ← processRules settings text with
  | .error e => return .error (.rules e)
  | .ok rules => .find rules.filter.query (conclude settings id rules)

/-- Evaluates a rule text as the request of the given id. -/
def evaluate (settings : Settings) (id text : String) :
    Program (Except EvaluationError Outcome) :=
  .withRequest id (steps settings id text)

end Evaluation

end CatalogRules
