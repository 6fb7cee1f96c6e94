/- The program: files, environment and streams around the pure commands. -/
import EndpointGen.CommandLine.Arguments
import EndpointGen.CommandLine.Run
import EndpointGen.LogConfig

namespace EndpointGen.Program

/-- What is at a path whose parent is a directory. -/
def entryAt (path : String) : IO (Option Entry) := do
  match ← (IO.FS.readBinFile path).toBaseIO with
  | .ok bytes => pure (some (.file (.ofBytes bytes.toList)))
  | .error (.inappropriateType _ _ _) => pure (some .directory)
  | .error _ => pure none

/-- Takes what is at a path into the tree; what is above the path is in it already. -/
def look (t : FileTree) (path : String) : IO FileTree := do
  match t.locate path with
  | .error _ => pure t
  | .ok l =>
    match ← entryAt path with
    | some e => pure (t.set l e)
    | none => pure t

/-- Takes what is at the paths and above them into the tree. -/
def survey (t : FileTree) (paths : List String) : IO FileTree :=
  (paths.flatMap fun path => (Path.ancestors path).reverse).foldlM look t

def store (change : Location × Entry) : IO Unit :=
  match change with
  | (l, .directory) => IO.FS.createDirAll l.path
  | (l, .file (.text s)) => IO.FS.writeFile l.path s
  | (l, .file (.binary bytes)) => IO.FS.writeBinFile l.path ⟨bytes.toArray⟩

/-- The variables that a run looks at. -/
def variableNames : List String :=
  [Config.outputDirVariable, Config.trimAsyncVariable] ++ LogConfig.variableNames

def environment : IO Environment := do
  let values ← variableNames.mapM fun name => do pure (name, ← IO.getEnv name)
  pure fun name => (values.lookup name).join

def writeLog (config : LogConfig) (log : List Event) : IO Unit := do
  for e in log.filter fun e => config.shows e.level do
    (← IO.getStderr).putStrLn (config.line e)

def exitCode (success : Bool) : UInt32 := if success then 0 else 1

def carryOut (i : Invocation) : IO UInt32 := do
  let env ← environment
  let known ← survey .empty i.command.inputPaths
  let known ← survey known (i.command.outputPaths env known)
  let r := i.command.run env known
  let config := LogConfig.ofEnvironment env
  writeLog (if i.verbose then config.verbose else config) r.log
  (FileTree.news known r.tree).forM store
  (← IO.getStdout).putStr r.printed
  match r.result with
  | .ok success => pure (exitCode success)
  | .error f => do
    (← IO.getStderr).putStrLn ("❌ " ++ f.line)
    pure 1

def helpText : String :=
  "Generates controllers, request records and dto classes from a declaration graph\n\n" ++
  "Usage: facadegen [-v] COMMAND --graph FILE [--config FILE] [OPTIONS]\n\n" ++
  "Commands:\n" ++
  "  generate   Write the source files  [--output DIR] [--dry-run]\n" ++
  "  check      Report diagnostics only  [--fail-on-error] [--errors-only]\n" ++
  "  inspect    Show the resolved facades and dtos\n" ++
  "  help       Show this text"

def versionText : String := "facadegen 0.1.0-alpha.1"

/-- What is shown instead of carrying out a command. -/
def usageText : UsageError → String
  | .helpAsked => helpText
  | .nothingAsked => helpText
  | .versionAsked => versionText
  | e => "❌ " ++ e.message

end EndpointGen.Program

open EndpointGen

def main (arguments : List String) : IO UInt32 := do
  match Invocation.ofArguments arguments with
  | .ok i => Program.carryOut i
  | .error e => do
    let stream ← if e.exitCode = 0 then IO.getStdout else IO.getStderr
    stream.putStrLn (Program.usageText e)
    pure (UInt32.ofNat e.exitCode)
