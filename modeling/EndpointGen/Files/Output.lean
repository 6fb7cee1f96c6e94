/- Writing source units into a directory, one file for each output key. -/
import EndpointGen.Failure
import EndpointGen.Report.Event
import EndpointGen.Source.SourceUnit

namespace EndpointGen

/-- A key that names a file right inside a directory. -/
def isPlainFileName (key : String) : Bool :=
  key != "" && key != "." && key != ".." && !key.toList.contains '/' && !key.toList.contains '\\'

/-- The state of writing: the files, the paths written and left as they were, what was logged, and
    the failure that stopped it. -/
structure Writing where
  tree : FileTree
  written : List String
  unchanged : List String
  log : List Event
  failure? : Option Failure

namespace Writing

def start (t : FileTree) : Writing := ⟨t, [], [], [], none⟩

def fail (w : Writing) (f : Failure) : Writing := { w with failure? := some f }

def holds (t : FileTree) (path text : String) : Bool :=
  match t.read path with
  | .ok s => s == text
  | .error _ => false

def keepUnchanged (w : Writing) (path : String) : Writing :=
  { w with unchanged := w.unchanged ++ [path], log := w.log ++ [.fileUnchanged path] }

def announce (w : Writing) (path : String) : Writing :=
  { w with written := w.written ++ [path], log := w.log ++ [.fileWouldBeWritten path] }

def put (w : Writing) (path text : String) : Writing :=
  match w.tree.write path text with
  | .ok t =>
    { w with tree := t, written := w.written ++ [path], log := w.log ++ [.fileWritten path] }
  | .error e => w.fail ⟨.file e, ["Failed to write " ++ path]⟩

/-- Writes one unit, unless its file holds the same text already or nothing is to be changed. -/
def unit (directory : String) (dryRun : Bool) (w : Writing) (u : SourceUnit) : Writing :=
  if isPlainFileName u.key then
    let path := Path.join directory u.key
    if holds w.tree path u.source then w.keepUnchanged path
    else if dryRun then w.announce path
    else w.put path u.source
  else w.fail (.ofCause (.keyNotPlain u.key))

def units (directory : String) (dryRun : Bool) (w : Writing) : List SourceUnit → Writing
  | [] => w
  | u :: us =>
    let w := w.unit directory dryRun u
    match w.failure? with
    | some _ => w
    | none => units directory dryRun w us

end Writing

/-- Writes units into a directory, which is made where it is missing. A dry run changes nothing and
    tells what would be written. -/
def writeUnits (t : FileTree) (directory : String) (us : List SourceUnit) (dryRun : Bool) :
    Writing :=
  if dryRun then (Writing.start t).units directory dryRun us
  else if directory = "" then (Writing.start t).units directory dryRun us
  else match t.makeDirectories directory with
    | (t, none) => (Writing.start t).units directory dryRun us
    | (t, some e) =>
      (Writing.start t).fail ⟨.file e, ["Failed to create output directory " ++ directory]⟩

end EndpointGen
