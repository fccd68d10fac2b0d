import CatalogRules.Cli.Run
import CatalogRules.Evaluation.RequestId
import Std.Time.DateTime.Timestamp

/-!
The executable. It looks up the files that its arguments name, runs the program
on them, and writes back the record file that the program has changed.
-/

namespace CatalogRules.Cli

def variableNames : List String :=
  [Config.targetVariable, Config.levelVariable, Config.filtersVariable,
   Config.thresholdVariable, Config.threadsVariable, filterVariable, styleVariable,
   coloursUnwantedVariable, coloursWantedVariable]

def findVariables : IO (List (String × String)) := do
  let found ← variableNames.mapM fun name => do
    return (← IO.getEnv name).map (fun value => (name, value))
  return found.filterMap id

/-- The number of processors, or four where it is not known. -/
def findProcessors : IO Nat := do
  try
    let text ← IO.FS.readFile "/proc/cpuinfo"
    let lines := (Text.split '\n' text).filter (fun line => line.startsWith "processor")
    return if lines.isEmpty then 4 else lines.length
  catch _ => return 4

def findTime : IO String := do
  let nanos := (← Std.Time.Timestamp.now).toNanosecondsSinceUnixEpoch.val
  let billion : Int := 1000000000
  return (Instant.mk (nanos / billion) (nanos % billion).toNat).text

def findSurroundings : IO Surroundings := do
  let bytes ← IO.getRandomBytes 16
  return {
    environment := ⟨← findVariables, ← findProcessors⟩
    time := ← findTime
    requestId := Evaluation.requestId (bytes.toList.map UInt8.toNat)
    elapsed := "0.000" }

def isDirectory (path : String) : IO Bool := do
  try
    return ← (← IO.FS.realPath path).isDir
  catch _ => return false

/-- Adds what is found at a path, or else the directory it would be in. -/
def findFile (files : Files) (path : String) : IO Files := do
  if ← isDirectory path then return files.makeDirectory path
  try
    let content ← IO.FS.readFile path
    return files.place path (.file content)
  catch _ =>
    if ← isDirectory (Files.parent path) then return files.makeDirectory (Files.parent path)
    else return files

def Command.paths : Command → List String
  | .evaluate records (.file rules) => [records, rules]
  | .evaluate records (.conditions _) => [records]
  | .products records => [records]
  | .ingest source records => [source, records]

def Invocation.paths (i : Invocation) : List String := i.config.toList ++ i.command.paths

def Command.written? : Command → Option String
  | .ingest _ records => some records
  | _ => none

def findFiles (args : List String) : IO Files :=
  match readArguments args with
  | .ok (.run i) => i.paths.foldlM findFile Files.empty
  | _ => return Files.empty

def writeBack (args : List String) (before after : Files) : IO Unit :=
  match readArguments args with
  | .ok (.run i) =>
    match i.command.written? with
    | none => return ()
    | some path =>
      match after.read path with
      | .error _ => return ()
      | .ok content =>
        if (before.read path).toOption = some content then return ()
        else IO.FS.writeFile path content
  | _ => return ()

end CatalogRules.Cli

open CatalogRules.Cli in
def main (args : List String) : IO UInt32 := do
  let surroundings ← findSurroundings
  let files ← findFiles args
  let outcome := run surroundings files args
  writeBack args files outcome.files
  IO.eprint outcome.stderr
  IO.print outcome.stdout
  return outcome.exit.toUInt32
