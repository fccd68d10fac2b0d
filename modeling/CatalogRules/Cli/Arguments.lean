/-!
The command line. An option takes the argument after it, unless that one looks
like an option itself, or what follows its equals sign. The option for the
configuration file may stand before and after the name of the command; the one
after it counts.
-/

namespace CatalogRules.Cli

inductive Flag where
  | config | records | rules | rule | source
  deriving DecidableEq

namespace Flag

def name : Flag → String
  | config => "config"
  | records => "records"
  | rules => "rules"
  | rule => "rule"
  | source => "source"

/-- Rules are texts and may be empty; all other options name files. -/
def takesPath (f : Flag) : Bool := f != rule

def isRepeatable (f : Flag) : Bool := f = rule

end Flag

inductive Command.Name where
  | evaluate | products | ingest
  deriving DecidableEq

namespace Command.Name

def ofText? : String → Option Command.Name
  | "evaluate" => some evaluate
  | "products" => some products
  | "ingest" => some ingest
  | _ => none

def flags : Command.Name → List Flag
  | evaluate => [.config, .records, .rules, .rule]
  | products => [.config, .records]
  | ingest => [.config, .source, .records]

end Command.Name

inductive RuleSource where
  | file (path : String)
  | conditions (lines : List String)
  deriving DecidableEq

inductive Command where
  | evaluate (records : String) (rules : RuleSource)
  | products (records : String)
  | ingest (source records : String)
  deriving DecidableEq

structure Invocation where
  config : Option String
  command : Command
  deriving DecidableEq

inductive Request where
  | run (invocation : Invocation)
  | help
  | version
  deriving DecidableEq

inductive Misuse where
  | unexpected (argument : String)
  | missingValue (flag : Flag)
  | emptyValue (flag : Flag)
  | repeated (flag : Flag)
  | missing (flag : Flag)
  | conflict (first second : Flag)
  | missingCommand
  deriving DecidableEq

def Misuse.message : Misuse → String
  | unexpected argument => "unexpected argument '" ++ argument ++ "'"
  | missingValue flag => "a value is required for '--" ++ flag.name ++ "'"
  | emptyValue flag => "the value of '--" ++ flag.name ++ "' is empty"
  | repeated flag => "the argument '--" ++ flag.name ++ "' cannot be used multiple times"
  | missing flag => "the argument '--" ++ flag.name ++ "' was not provided"
  | conflict first second =>
    "the arguments '--" ++ first.name ++ "' and '--" ++ second.name ++
      "' cannot be used together"
  | missingCommand => "a command is required"

inductive Shape where
  /-- Two dashes alone: no option follows. -/
  | separator
  | long (name : List Char) (value : Option (List Char))
  | short (first : Char)
  | plain

def shape (arg : String) : Shape :=
  match arg.toList with
  | ['-', '-'] => .separator
  | '-' :: '-' :: cs =>
    let (name, rest) := cs.span (· != '=')
    .long name rest.tail?
  | '-' :: c :: _ => .short c
  | _ => .plain

def isPlain (arg : String) : Bool :=
  match shape arg with
  | .plain => true
  | _ => false

/-- The options of one part of the command line. -/
abbrev Values := List (Flag × String)

inductive Ending where
  | finished
  | help
  | version
  | positional (arg : String) (rest : List String)

/-- Adds an option to those before it, which stand in `seen`. -/
def accept (seen : List Flag) (flag : Flag) (value : String) : Except Misuse (Flag × String) :=
  if flag.takesPath && value.isEmpty then .error (.emptyValue flag)
  else if !flag.isRepeatable && flag ∈ seen then .error (.repeated flag)
  else .ok (flag, value)

/-- The options up to the first argument that is none. -/
def scan (flags : List Flag) (hasVersion : Bool) (seen : List Flag) :
    List String → Except Misuse (Values × Ending)
  | [] => .ok ([], .finished)
  | arg :: rest =>
    match shape arg with
    | .plain => .ok ([], .positional arg rest)
    | .separator =>
      match rest with
      | [] => .ok ([], .finished)
      | next :: _ => .error (.unexpected next)
    | .short c =>
      if c = 'h' then .ok ([], .help)
      else if c = 'V' ∧ hasVersion then .ok ([], .version)
      else .error (.unexpected arg)
    | .long name value =>
      match flags.find? (fun f => f.name.toList = name), value with
      | some flag, some value =>
        match accept seen flag (String.ofList value) with
        | .error e => .error e
        | .ok option =>
          match scan flags hasVersion (flag :: seen) rest with
          | .error e => .error e
          | .ok (values, ending) => .ok (option :: values, ending)
      | some flag, none =>
        match rest with
        | [] => .error (.missingValue flag)
        | next :: rest =>
          if !isPlain next then .error (.missingValue flag)
          else match accept seen flag next with
            | .error e => .error e
            | .ok option =>
              match scan flags hasVersion (flag :: seen) rest with
              | .error e => .error e
              | .ok (values, ending) => .ok (option :: values, ending)
      | none, none =>
        if name = "help".toList then .ok ([], .help)
        else if name = "version".toList ∧ hasVersion then .ok ([], .version)
        else .error (.unexpected arg)
      | none, some _ => .error (.unexpected arg)

namespace Values

def get? (values : Values) (flag : Flag) : Option String := List.lookup flag values

def getAll (values : Values) (flag : Flag) : List String :=
  (values.filter (fun v => v.1 = flag)).map Prod.snd

def require (values : Values) (flag : Flag) : Except Misuse String :=
  match values.get? flag with
  | some value => .ok value
  | none => .error (.missing flag)

end Values

def ruleSource (values : Values) : Except Misuse RuleSource :=
  match Values.get? values .rules, Values.getAll values .rule with
  | some path, [] => .ok (.file path)
  | some _, _ :: _ => .error (.conflict .rules .rule)
  | none, lines => .ok (.conditions lines)

def command (values : Values) : Command.Name → Except Misuse Command
  | .evaluate => do
    let rules ← ruleSource values
    return .evaluate (← Values.require values .records) rules
  | .products => do
    return .products (← Values.require values .records)
  | .ingest => do
    return .ingest (← Values.require values .source) (← Values.require values .records)

def readCommand (config : Option String) (name : Command.Name) (args : List String) :
    Except Misuse Request := do
  let (values, ending) ← scan name.flags false [] args
  match ending with
  | .positional arg _ => .error (.unexpected arg)
  | .help => return .help
  | .version => return .version
  | .finished =>
    let config := (Values.get? values .config).or config
    return .run ⟨config, ← command values name⟩

def readTopics : List String → Except Misuse Request
  | [] => .ok .help
  | [topic] =>
    if topic = "help" ∨ (Command.Name.ofText? topic).isSome then .ok .help
    else .error (.unexpected topic)
  | _ :: topic :: _ => .error (.unexpected topic)

def readArguments (args : List String) : Except Misuse Request := do
  let (values, ending) ← scan [.config] true [] args
  match ending with
  | .finished => .error .missingCommand
  | .help => return .help
  | .version => return .version
  | .positional arg rest =>
    if arg = "help" then readTopics rest
    else match Command.Name.ofText? arg with
      | some name => readCommand (Values.get? values .config) name rest
      | none => .error (.unexpected arg)

end CatalogRules.Cli
