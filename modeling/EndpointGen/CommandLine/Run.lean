/- Running a command on a file tree. -/
import EndpointGen.CommandLine.Command
import EndpointGen.CommandLine.Summary
import EndpointGen.Files.Load
import EndpointGen.Files.Output

namespace EndpointGen

/-- What a command does: the files after it, the text it prints, its success or what stopped it,
    and what it logs. -/
structure CommandResult where
  tree : FileTree
  printed : String
  result : Except Failure Bool
  log : List Event

structure Inputs where
  config : Config
  set : DeclarationSet

namespace Inputs

/-- The settings are loaded first. -/
def load (t : FileTree) (env : Environment) (config? : Option String) (graph : String) :
    Except Failure Inputs := do
  let config ← Config.effective t env config? graph
  let set ← DeclarationSet.load t graph
  .ok ⟨config, set⟩

def loadLog (t : FileTree) (env : Environment) (config? : Option String) (graph : String) :
    List Event :=
  Config.effectiveLog t config? graph ++
    match Config.effective t env config? graph with
    | .ok _ => DeclarationSet.loadLog (DeclarationSet.load t graph)
    | .error _ => []

end Inputs

namespace Command

def pathLine (path : String) : String := "   " ++ path ++ "\n"

def writingText (directory : String) (dryRun : Bool) (w : Writing) : String :=
  "✅ " ++ (if dryRun then "Would write" else "Wrote") ++ " " ++ toString w.written.length ++
    " file(s) to " ++ directory ++ ", " ++ toString w.unchanged.length ++ " unchanged\n" ++
    String.join (w.written.map pathLine)

def generating (t : FileTree) (work : Inputs) (output? : Option String) (dryRun : Bool) :
    CommandResult :=
  let pass := work.set.graph.run work.config
  let directory := output?.getD work.config.outputDir
  let w := writeUnits t directory pass.units dryRun
  let printed := Diagnostic.report pass.diagnostics
  let log := pass.log ++ w.log
  match w.failure? with
  | some f => ⟨w.tree, printed, .error f, log⟩
  | none => ⟨w.tree, printed ++ writingText directory dryRun w, .ok (!pass.hasErrors), log⟩

def checking (t : FileTree) (work : Inputs) (failOnError errorsOnly : Bool) : CommandResult :=
  let pass := work.set.graph.run work.config
  let shown := if errorsOnly then pass.diagnostics.filter (·.isError) else pass.diagnostics
  ⟨t, Diagnostic.report shown, .ok (!(failOnError && pass.hasErrors)), pass.log⟩

def inspecting (t : FileTree) (work : Inputs) : CommandResult :=
  let resolved := work.set.graph.resolveAll work.config
  ⟨t, resolved.summary ++ Diagnostic.report resolved.diagnostics, .ok true, resolved.log⟩

def perform (t : FileTree) (work : Inputs) : Command → CommandResult
  | .generate _ output? _ dryRun => generating t work output? dryRun
  | .check _ _ failOnError errorsOnly => checking t work failOnError errorsOnly
  | .inspect _ _ => inspecting t work

/-- The files that a command reads whatever they hold. -/
def inputPaths (c : Command) : List String :=
  c.graph :: (c.config?.or (Config.usualPath? c.graph)).toList

/-- The files that a command writes or compares with, and the directory that they are in. -/
def outputPaths (env : Environment) (t : FileTree) : Command → List String
  | .generate graph output? config? _ =>
    match Inputs.load t env config? graph with
    | .error _ => []
    | .ok work =>
      let directory := output?.getD work.config.outputDir
      let pass := work.set.graph.run work.config
      directory :: (pass.keys.filter isPlainFileName).map (Path.join directory)
  | .check _ _ _ _ => []
  | .inspect _ _ => []

def run (env : Environment) (t : FileTree) (c : Command) : CommandResult :=
  let loadLog := Inputs.loadLog t env c.config? c.graph
  match Inputs.load t env c.config? c.graph with
  | .error f => ⟨t, "", .error f, loadLog⟩
  | .ok work =>
    let r := c.perform t work
    { r with log := loadLog ++ r.log }

end Command

end EndpointGen
