/- Commands: what one call of the program asks for. -/

namespace EndpointGen

inductive Command where
  | generate (graph : String) (output? config? : Option String) (dryRun : Bool)
  | check (graph : String) (config? : Option String) (failOnError errorsOnly : Bool)
  | inspect (graph : String) (config? : Option String)
deriving DecidableEq, Repr

/-- A command and whether debug messages are wanted. -/
structure Invocation where
  command : Command
  verbose : Bool
deriving DecidableEq, Repr

namespace Command

def graph : Command → String
  | .generate graph _ _ _ => graph
  | .check graph _ _ _ => graph
  | .inspect graph _ => graph

def config? : Command → Option String
  | .generate _ _ config? _ => config?
  | .check _ config? _ _ => config?
  | .inspect _ config? => config?

end Command

end EndpointGen
