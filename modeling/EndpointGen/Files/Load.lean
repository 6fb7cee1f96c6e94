/- Loading declaration graphs and settings from files. -/
import EndpointGen.Config
import EndpointGen.Declaration.Format
import EndpointGen.Document.Toml
import EndpointGen.Document.Yaml.Basic
import EndpointGen.Failure
import EndpointGen.Graph.DeclarationSet

namespace EndpointGen

inductive GraphFormat where
  | json
  | yaml
deriving DecidableEq, Repr

namespace GraphFormat

/-- YAML by its two usual extensions, JSON otherwise. -/
def ofPath (path : String) : GraphFormat :=
  match Path.extension? path with
  | some "yaml" => .yaml
  | some "yml" => .yaml
  | _ => .json

def parse (format : GraphFormat) (text : String) : Except Failure Doc :=
  match format with
  | .json =>
    match Json.parse text with
    | .ok d => .ok d
    | .error fault => .error (.ofCause (.json fault))
  | .yaml =>
    match Yaml.parse? text with
    | some d => .ok d
    | none => .error (.ofCause .yaml)

end GraphFormat

def decoding {α : Type} (decode : Decoder α) (d : Doc) : Except Failure α :=
  match decode d with
  | .ok a => .ok a
  | .error e => .error (.ofCause (.document e))

namespace DeclarationSet

def parse (format : GraphFormat) (text : String) : Except Failure DeclarationSet := do
  let d ← format.parse text
  let ds ← decoding GraphDocument.ofDoc d
  .ok (ofList ds)

def load (t : FileTree) (path : String) : Except Failure DeclarationSet :=
  match t.read path with
  | .error e =>
    attempting ("Failed to read declaration graph: " ++ path) (.error (.ofCause (.file e)))
  | .ok text =>
    attempting ("Failed to parse declaration graph: " ++ path)
      (parse (GraphFormat.ofPath path) text)

def loadLog : Except Failure DeclarationSet → List Event
  | .ok s => [.graphLoaded s.size]
  | .error _ => []

end DeclarationSet

namespace Config

def fileName : String := "facadegen.toml"

def parse (text : String) : Except Failure Config :=
  match Toml.parse? text with
  | none => .error (.ofCause .toml)
  | some d =>
    match ofDoc d with
    | .ok c => .ok c
    | .error _ => .error (.ofCause .toml)

/-- The settings in a file, none where there is no such file. -/
def load (t : FileTree) (path : String) : Except Failure (Option Config) :=
  if t.pathExists path then
    match t.read path with
    | .error e =>
      attempting ("Failed to read generator config: " ++ path) (.error (.ofCause (.file e)))
    | .ok text =>
      attempting ("Failed to parse generator config: " ++ path) ((parse text).map some)
  else .ok none

/-- Where the settings file of a graph file is looked for: next to it. -/
def usualPath? (graphPath : String) : Option String :=
  (Path.parent? graphPath).map fun directory => Path.join directory fileName

def besides? (t : FileTree) (graphPath : String) : Option String :=
  (usualPath? graphPath).filter t.pathExists

/-- The settings file of a run: the one that is given, or the one next to the graph. -/
def path? (t : FileTree) (explicit : Option String) (graphPath : String) : Option String :=
  match explicit with
  | some path => some path
  | none => besides? t graphPath

/-- The settings before the environment; a file that is given has to be there. -/
def fromFile (t : FileTree) (explicit : Option String) (graphPath : String) :
    Except Failure Config :=
  match path? t explicit graphPath with
  | none => .ok default
  | some path =>
    match load t path with
    | .error f => .error f
    | .ok (some c) => .ok c
    | .ok none =>
      if explicit.isSome then .error (.ofCause (.configMissing path)) else .ok default

def effective (t : FileTree) (env : Environment) (explicit : Option String) (graphPath : String) :
    Except Failure Config :=
  (fromFile t explicit graphPath).map fun c => c.withEnvironment env

/-- What loading the settings logs: the path of their file. -/
def effectiveLog (t : FileTree) (explicit : Option String) (graphPath : String) : List Event :=
  match fromFile t explicit graphPath, path? t explicit graphPath with
  | .ok _, some path => [.configLoaded path]
  | _, _ => []

end Config

end EndpointGen
