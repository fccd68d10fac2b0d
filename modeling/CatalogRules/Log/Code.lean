/-!
Codes of log events and errors, and what is known about each error code: how
severe it is, whether the writer of the rules can mend it, and what to do.
-/

namespace CatalogRules.Code

def internalError : String := "ERR001"
def initializationFailure : String := "ERR002"
def noOperator : String := "E101"
def malformedCondition : String := "E102"
def emptyRuleSet : String := "E103"
def limitExceeded : String := "E104"
def unknownField : String := "E120"
def unsupportedOperator : String := "E121"
def unsuitableValue : String := "E122"
def storeFailure : String := "E140"
def storeLock : String := "E141"
def invalidProduct : String := "E160"
def undecodedSource : String := "E161"
def unloadedConfiguration : String := "E180"

def initialized : String := "I001"
def rulesParsed : String := "I010"
def filterCompiled : String := "I011"
def evaluationComplete : String := "I020"
def ingestionComplete : String := "I030"

/-- The codes of events that have none of their own. -/
def plainWarning : String := "W000"
def plainInfo : String := "I000"
def plainDebug : String := "D000"

inductive Severity where
  | critical | high | medium | low
  deriving DecidableEq

def Severity.name : Severity → String
  | critical => "Critical"
  | high => "High"
  | medium => "Medium"
  | low => "Low"

structure Entry where
  code : String
  category : String
  severity : Severity
  /-- The writer of the rules can mend it by editing them. -/
  correctable : Bool
  description : String
  action : String
  deriving DecidableEq

def registry : List Entry := [
  ⟨internalError, "System", .critical, false, "Critical internal error",
    "File a bug report with the rule text that triggered it"⟩,
  ⟨initializationFailure, "System", .critical, false, "System initialization failure",
    "Check logging and runtime configuration"⟩,
  ⟨noOperator, "Parse", .medium, true, "Condition line contains no comparison operator",
    "Write each condition as `field operator value`"⟩,
  ⟨malformedCondition, "Parse", .medium, true,
    "Condition line could not be split into field and value",
    "Use exactly one operator per line and supply both sides"⟩,
  ⟨emptyRuleSet, "Parse", .low, true, "Rule text contains no conditions",
    "Supply at least one non-blank condition line"⟩,
  ⟨limitExceeded, "Parse", .medium, true, "Rule text exceeds an implementation limit",
    "Shorten the rule text or split it into smaller segments"⟩,
  ⟨unknownField, "Policy", .medium, true, "Condition references a field outside the schema",
    "Use one of the allowed field names"⟩,
  ⟨unsupportedOperator, "Policy", .medium, true, "Operator is not legal for the field type",
    "Use an operator the field accepts"⟩,
  ⟨unsuitableValue, "Policy", .medium, true, "Value cannot be coerced to the field type",
    "Supply a value of the type the field expects"⟩,
  ⟨storeFailure, "Store", .high, false, "Record store query failed",
    "Check record store availability and retry the request"⟩,
  ⟨storeLock, "Store", .critical, false, "Record store lock poisoned by a panicking writer",
    "Restart the process to rebuild the store"⟩,
  ⟨invalidProduct, "Ingest", .low, false, "Source record is missing required data",
    "Inspect the upstream product payload"⟩,
  ⟨undecodedSource, "Ingest", .high, false, "Source payload could not be decoded",
    "Verify the source file contains a JSON array of products"⟩,
  ⟨unloadedConfiguration, "Config", .high, false,
    "Runtime configuration could not be loaded",
    "Check the configuration file path and TOML syntax"⟩]

def find? (code : String) : Option Entry :=
  registry.find? (fun e => e.code == code)

def severity (code : String) : Severity := ((find? code).map Entry.severity).getD .low

def correctable (code : String) : Bool := ((find? code).map Entry.correctable).getD false

def description (code : String) : String :=
  ((find? code).map Entry.description).getD "Unknown error"

def action (code : String) : String :=
  ((find? code).map Entry.action).getD "No specific action available"

/-- The category of a code; one without an entry has it from its first letter. -/
def category (code : String) : String :=
  match find? code with
  | some e => e.category
  | none =>
    match code.toList with
    | 'I' :: _ => "Success"
    | 'W' :: _ => "Warning"
    | 'D' :: _ => "Debug"
    | _ => "Unknown"

end CatalogRules.Code
