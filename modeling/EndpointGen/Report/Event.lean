/- The log of a run: what happened, with the level, message and fields of each event. -/
import EndpointGen.Report.Diagnostic

namespace EndpointGen

inductive Level where
  | trace
  | debug
  | info
  | warn
  | error
deriving DecidableEq, Repr

def Level.text : Level → String
  | .trace => "TRACE"
  | .debug => "DEBUG"
  | .info => "INFO"
  | .warn => "WARN"
  | .error => "ERROR"

/-- The levels in order, the gravest last. -/
def Level.rank : Level → Nat
  | .trace => 0
  | .debug => 1
  | .info => 2
  | .warn => 3
  | .error => 4

def Severity.level : Severity → Level
  | .warning => .warn
  | .error => .error

inductive Event where
  | reported (d : Diagnostic)
  | repeatedFragment (identity : String)
  | bothMarkers (identity : String)
  | discovered (facades dtos : Nat)
  | serviceMissing (facade : String)
  | facadeResolved (facade controller service : String) (operations : Nat)
  | entityUnset (dto : String)
  | entityUnknown (dto entity : String)
  | propertySkipped (dto property reason : String)
  | baseChainTooLong (identity : String)
  | unitGenerated (key declaration : String)
  | passComplete (units diagnostics : Nat)
  | graphLoaded (declarations : Nat)
  | configLoaded (path : String)
  | fileUnchanged (path : String)
  | fileWouldBeWritten (path : String)
  | fileWritten (path : String)
deriving DecidableEq, Repr

namespace Event

def level : Event → Level
  | .reported d => d.severity.level
  | .repeatedFragment _ => .debug
  | .bothMarkers _ => .warn
  | .discovered _ _ => .debug
  | .serviceMissing _ => .debug
  | .facadeResolved _ _ _ _ => .debug
  | .entityUnset _ => .debug
  | .entityUnknown _ _ => .debug
  | .propertySkipped _ _ _ => .trace
  | .baseChainTooLong _ => .warn
  | .unitGenerated _ _ => .debug
  | .passComplete _ _ => .info
  | .graphLoaded _ => .debug
  | .configLoaded _ => .debug
  | .fileUnchanged _ => .debug
  | .fileWouldBeWritten _ => .info
  | .fileWritten _ => .info

def message : Event → String
  | .reported d => d.message
  | .repeatedFragment _ => "skipping repeated fragment"
  | .bothMarkers _ => "declaration carries both facade and dto markers; treating as facade"
  | .discovered _ _ => "discovery complete"
  | .serviceMissing _ => "no service type resolvable; facade skipped"
  | .facadeResolved _ _ _ _ => "resolved facade"
  | .entityUnset _ => "no entity type configured; dto skipped"
  | .entityUnknown _ _ => "entity type not found in graph; dto skipped"
  | .propertySkipped _ _ _ => "property skipped"
  | .baseChainTooLong _ => "base-type chain exceeds 64 steps"
  | .unitGenerated _ _ => "generated unit"
  | .passComplete _ _ => "synthesis pass complete"
  | .graphLoaded _ => "loaded declaration graph"
  | .configLoaded _ => "loaded generator config"
  | .fileUnchanged _ => "unchanged"
  | .fileWouldBeWritten _ => "would write"
  | .fileWritten _ => "wrote"

def fields : Event → List (String × String)
  | .reported d => [("code", d.code.text), ("location", d.location)]
  | .repeatedFragment identity => [("identity", identity)]
  | .bothMarkers identity => [("identity", identity)]
  | .discovered facades dtos => [("facades", toString facades), ("dtos", toString dtos)]
  | .serviceMissing facade => [("facade", facade)]
  | .facadeResolved facade controller service operations =>
    [("facade", facade), ("controller", controller), ("service", service),
      ("operations", toString operations)]
  | .entityUnset dto => [("dto", dto)]
  | .entityUnknown dto entity => [("dto", dto), ("entity", entity)]
  | .propertySkipped dto property reason =>
    [("dto", dto), ("property", property), ("reason", reason)]
  | .baseChainTooLong identity => [("identity", identity)]
  | .unitGenerated key declaration => [("key", key), ("declaration", declaration)]
  | .passComplete units diagnostics =>
    [("units", toString units), ("diagnostics", toString diagnostics)]
  | .graphLoaded declarations => [("declarations", toString declarations)]
  | .configLoaded path => [("path", path)]
  | .fileUnchanged path => [("path", path)]
  | .fileWouldBeWritten path => [("path", path)]
  | .fileWritten path => [("path", path)]

end Event

end EndpointGen
