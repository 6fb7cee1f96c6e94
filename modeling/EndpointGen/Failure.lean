/- Why an operation fails, with the actions that it failed in. -/
import EndpointGen.Document.Decode
import EndpointGen.Document.Json
import EndpointGen.Files.Tree

namespace EndpointGen

inductive Cause where
  | document (e : DecodeError)
  | json (fault : Json.Fault)
  | yaml
  | toml
  | file (e : FileError)
  | keyNotPlain (key : String)
  | configMissing (path : String)
deriving DecidableEq, Repr

/-- A cause, with the descriptions of the failed actions around it, outermost first. -/
structure Failure where
  cause : Cause
  context : List String
deriving DecidableEq, Repr

namespace Cause

def message : Cause → String
  | .document e => e.message
  | .json .unfinished => "unfinished JSON text"
  | .json .malformed => "malformed JSON text"
  | .yaml => "unacceptable YAML text"
  | .toml => "unacceptable TOML text"
  | .file e => e.text
  | .keyNotPlain key => "Output key '" ++ key ++ "' is not a plain file name"
  | .configMissing path => "Config file not found: " ++ path

end Cause

namespace Failure

def ofCause (c : Cause) : Failure := ⟨c, []⟩

def within (action : String) (f : Failure) : Failure := { f with context := action :: f.context }

/-- The failed actions and the cause on one line. -/
def line (f : Failure) : String := String.intercalate ": " (f.context ++ [f.cause.message])

end Failure

/-- Names the action that a failure happened in. -/
def attempting {α : Type} (action : String) : Except Failure α → Except Failure α
  | .ok a => .ok a
  | .error f => .error (f.within action)

end EndpointGen
