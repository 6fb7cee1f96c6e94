/- Route templates and the binding of parameters to them. -/
import EndpointGen.Declaration.Basic
import EndpointGen.Report.Diagnostic

namespace EndpointGen

open Text

/-- A template as written, with the names of its parameters in ascending order. -/
structure Route where
  template : String
  names : List String
deriving DecidableEq, Repr

namespace Route

/-- The parameter that a segment names: the text between its braces up to a colon. -/
def segmentName? : List Char → Option (List Char)
  | '\x7b' :: rest =>
    if rest.getLast? = some '\x7d' then
      match rest.dropLast.takeWhile (· ≠ ':') with
      | [] => none
      | name => some name
    else none
  | _ => none

def parse (template : String) : Route :=
  ⟨template, nameSet (((segments '/' template.toList).filterMap segmentName?).map String.ofList)⟩

def binds (r : Route) (name : String) : Bool := r.names.contains name

/-- The route parameters that no method parameter bears. -/
def unmatched (r : Route) (parameters : List Parameter) : List String :=
  r.names.filter fun name => !parameters.any fun p => p.name == name

end Route

/-- Where an action finds the value of a parameter: in the route, or in the query or body. -/
inductive Binding where
  | route
  | free
deriving DecidableEq, Repr

def Binding.text : Binding → String
  | .route => "route"
  | .free => "free"

structure BoundParameter where
  name : String
  type : TypeExpr
  binding : Binding
deriving DecidableEq, Repr

def BoundParameter.isRouteBound (p : BoundParameter) : Bool := p.binding == .route

namespace Route

def bind (r : Route) (parameters : List Parameter) : List BoundParameter :=
  parameters.map fun p => ⟨p.name, p.type, if r.binds p.name then .route else .free⟩

def unmatchedDiagnostic (r : Route) (location member name : String) : Diagnostic :=
  .ofCode .unmatchedRouteParameter location
    ("Route parameter '" ++ name ++ "' in route '" ++ r.template ++
      "' not found in the parameters of '" ++ member ++ "'")
    (some ("Add a parameter named '" ++ name ++ "' to '" ++ member ++
      "' or remove it from the route"))

def unmatchedDiagnostics (r : Route) (parameters : List Parameter) (location member : String) :
    List Diagnostic :=
  (r.unmatched parameters).map (r.unmatchedDiagnostic location member)

end Route

end EndpointGen
