import CatalogRules.Cli.Arguments
import CatalogRules.Config.Document
import CatalogRules.Ingest.Ingest
import CatalogRules.Log.Facade
import CatalogRules.Service.Service
import CatalogRules.Store.Document

/-!
The command line program as a function: from its arguments, its environment and
the files it finds to its exit code, what it prints and the files it leaves.
Answers go to the standard output as indented JSON, log events to the standard
error.
-/

namespace CatalogRules.Cli

/-- What the program takes from its surroundings besides arguments and files. -/
structure Surroundings where
  environment : Environment
  /-- The time of the run, for log events and summaries. -/
  time : String
  /-- The id of the request, if there is one. -/
  requestId : String
  /-- The milliseconds that the log gives for a step. -/
  elapsed : String

structure Outcome where
  exit : Nat
  stdout : String
  stderr : String
  files : Files

structure Ran where
  succeeded : Bool
  answer : Json
  journal : Log.Journal
  files : Files

/-- A command that has failed outside of the service. -/
structure Failure where
  message : String
  journal : Log.Journal

def evaluationSettings (s : Surroundings) (config : Config) : Evaluation.Settings where
  limits := config.evaluation.limits
  logsFilters := config.logging.logsFilters
  elapsed := s.elapsed

def readRules (files : Files) : RuleSource → Except String String
  | .conditions lines => .ok ("\n".intercalate lines)
  | .file path =>
    match files.read path with
    | .ok text => .ok text
    | .error cause => .error ("Failed to read rules '" ++ path ++ "': " ++ cause.message)

def summaryJson (time : String) (s : IngestSummary) : Json :=
  .object [
    ("success", .bool true),
    ("fetched", .ofNat s.fetched),
    ("total_saved", .ofNat s.saved),
    ("inserted", .ofNat s.inserted),
    ("updated", .ofNat s.updated),
    ("completed_at", .string time)]

def serve (files : Files) (journal : Log.Journal) (store : Store)
    (p : Program (Envelope Record)) : Except Failure Ran :=
  let run := p.run Store.backend journal store
  match run.result with
  | .ok envelope => .ok ⟨envelope.success, Service.envelopeJson envelope, run.journal, files⟩
  | .error fault => .error ⟨fault.message, run.journal⟩

def runEvaluate (s : Surroundings) (config : Config) (files : Files) (journal : Log.Journal)
    (records : String) (rules : RuleSource) : Except Failure Ran :=
  match readRules files rules with
  | .error message => .error ⟨message, journal⟩
  | .ok text =>
    match Store.load files records with
    | .error e => .error ⟨e.message, journal⟩
    | .ok store =>
      let journal := journal.write (.info "Evaluating segment" [("records", records)])
      serve files journal store
        (Service.evaluate (evaluationSettings s config) s.requestId text)

def runProducts (files : Files) (journal : Log.Journal) (records : String) :
    Except Failure Ran :=
  match Store.load files records with
  | .error e => .error ⟨e.message, journal⟩
  | .ok store => serve files journal store Service.products

def runIngest (s : Surroundings) (files : Files) (journal : Log.Journal)
    (source records : String) : Except Failure Ran :=
  match Store.load files records with
  | .error e => .error ⟨e.message, journal⟩
  | .ok store =>
    let run := (Ingest.ingestFile files source).run Store.backend journal store
    match run.result with
    | .error fault => .error ⟨fault.message, run.journal⟩
    | .ok (.error e) => .error ⟨e.message, run.journal⟩
    | .ok (.ok summary) =>
      match run.state.save files records with
      | .error e => .error ⟨e.message, run.journal⟩
      | .ok files => .ok ⟨true, summaryJson s.time summary, run.journal, files⟩

def runCommand (s : Surroundings) (config : Config) (files : Files) (journal : Log.Journal) :
    Command → Except Failure Ran
  | .evaluate records rules => runEvaluate s config files journal records rules
  | .products records => runProducts files journal records
  | .ingest source records => runIngest s files journal source records

/-- A failed command is logged and answered with an envelope. -/
def settle (files : Files) : Except Failure Ran → Ran
  | .ok ran => ran
  | .error failure =>
    let journal := failure.journal.write
      (.error Code.internalError "Command failed" [("error", failure.message)])
    ⟨false, Service.envelopeJson (.ofFailure failure.message 500), journal, files⟩

def filterVariable : String := "RUST_LOG"

/-- The variables that say whether its lines are coloured. -/
def styleVariable : String := "RUST_LOG_STYLE"

def coloursUnwantedVariable : String := "NO_COLOR"

def coloursWantedVariable : String := "CLICOLOR_FORCE"

/-- The events of a shared log, with a report on the log itself after those of
its opening. -/
def facadeOutput (s : Surroundings) (config : Config) (opening events : List Log.Event) :
    String :=
  let filter := Log.Facade.Filter.read ((s.environment.get? filterVariable).getD "info")
  let report : Log.Facade.Message :=
    ⟨.debug, config.logging.diagnostics config.logging.level⟩
  let get := s.environment.get?
  let coloured := Log.Facade.isColoured (get styleVariable) (get coloursUnwantedVariable)
    (get coloursWantedVariable)
  Log.Facade.warnings filter ++ Log.Facade.output filter coloured s.time
    (opening.map Log.Facade.ofEvent ++ report :: events.map Log.Facade.ofEvent)

def linesOf (lines : List String) : String := String.join (lines.map (· ++ "\n"))

/-- What the log writes; the events of its opening come first. -/
def logOutput (s : Surroundings) (config : Config) (opening events : List Log.Event) :
    String :=
  match config.logging.target with
  | .console => linesOf ((opening ++ events).map Log.Event.line)
  | .structured => linesOf ((opening ++ events).map (fun e => e.toJson.compact))
  | .facade => facadeOutput s config opening events
  | .silent => ""

def runConfigured (s : Surroundings) (config : Config) (files : Files) (command : Command) :
    Outcome :=
  let opening := Log.Journal.opened config.logging.level s.time
  let ran := settle files (runCommand s config files opening command)
  let events := ran.journal.events.drop opening.events.length
  { exit := if ran.succeeded then 0 else 1
    stdout := ran.answer.pretty ++ "\n"
    stderr := logOutput s config opening.events events
    files := ran.files }

def loadConfig (env : Environment) (files : Files) : Option String → Except ConfigError Config
  | some path => Config.load env files path
  | none => .ok (.ofEnvironment env)

def runInvocation (s : Surroundings) (files : Files) (i : Invocation) : Outcome :=
  match loadConfig s.environment files i.config with
  | .ok config => runConfigured s config files i.command
  | .error e => ⟨1, "", "[ERROR] FALLBACK: [" ++ e.code ++ "] " ++ e.message ++ "\n", files⟩

def usageText : String :=
  "Evaluate catalog segment rules\n\n" ++
  "Usage: segments [--config <FILE>] <COMMAND>\n\n" ++
  "Commands:\n" ++
  "  evaluate --records <FILE> [--rules <FILE> | --rule <CONDITION>...]\n" ++
  "  products --records <FILE>\n" ++
  "  ingest --source <FILE> --records <FILE>\n"

def versionText : String := "segments 0.1.0\n"

def run (s : Surroundings) (files : Files) (args : List String) : Outcome :=
  match readArguments args with
  | .error e => ⟨2, "", "error: " ++ e.message ++ "\n", files⟩
  | .ok .help => ⟨0, usageText, "", files⟩
  | .ok .version => ⟨0, versionText, "", files⟩
  | .ok (.run i) => runInvocation s files i

end CatalogRules.Cli
